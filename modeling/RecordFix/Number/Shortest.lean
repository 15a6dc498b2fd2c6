import RecordFix.Number.Binary64

/-!
# Shortest decimal text of a binary number

Of the decimals that are rounded to a given number of the format, the shortest has the fewest
digits, and of several with as few digits it is the nearest one. `shortestDecimal` finds it on the
decimal grids from coarse to fine: if any point of a grid reads back as the number, then one of the
two points next to the number does.
-/

namespace RecordFix.Number

/-- The decimal number `digits · 10 ^ exponent`. -/
structure Decimal where
  digits : Nat
  exponent : Int
  deriving DecidableEq, Repr

/-- The numbers that round to a magnitude, in quarters of its last binary place: `low` and `high`
bound them, `mid` is the magnitude, and the bounds belong to it if `closed`. -/
structure Interval where
  low : Nat
  mid : Nat
  high : Nat
  closed : Bool
  unit : Nat × Nat

/-- The interval of a positive magnitude. The gap below a power of two is half as wide. -/
def Interval.of (x : Magnitude) : Interval :=
  let narrow := x.mantissa = 0x10000000000000 ∧ -1074 < x.exponent
  { low := if narrow then 4 * x.mantissa - 1 else 4 * x.mantissa - 2
    mid := 4 * x.mantissa
    high := 4 * x.mantissa + 2
    closed := x.mantissa % 2 = 0
    unit := (Magnitude.mk 1 (x.exponent - 2)).fraction }

/-- The point `digits` of the grid of step `10 ^ p` in the units of the interval, as a fraction. -/
def Interval.point (i : Interval) (digits : Nat) (p : Int) : Nat × Nat :=
  if 0 ≤ p then (digits * Nat.pow 10 p.toNat * i.unit.2, i.unit.1)
  else (digits * i.unit.2, i.unit.1 * Nat.pow 10 (-p).toNat)

/-- Whether the point of the grid lies in the interval. -/
def Interval.holds (i : Interval) (digits : Nat) (p : Int) : Bool :=
  let (num, den) := i.point digits p
  if i.closed then i.low * den ≤ num && num ≤ i.high * den
  else i.low * den < num && num < i.high * den

/-- The last grid point not above the number. -/
def Interval.floor (i : Interval) (p : Int) : Nat :=
  if 0 ≤ p then i.mid * i.unit.1 / (i.unit.2 * Nat.pow 10 p.toNat)
  else i.mid * i.unit.1 * Nat.pow 10 (-p).toNat / i.unit.2

/-- Whether the point after `digits` is nearer to the number than `digits`, the even one of two
equally near. -/
def Interval.above (i : Interval) (digits : Nat) (p : Int) : Bool :=
  let (down, den) := i.point digits p
  let (up, _) := i.point (digits + 1) p
  let below := i.mid * den - down
  let above := up - i.mid * den
  above < below || (above == below && digits % 2 == 1)

/-- The grid point of step `10 ^ p` that reads back as the number, if there is one. -/
def Interval.hit? (i : Interval) (p : Int) : Option Nat :=
  let digits := i.floor p
  match i.holds digits p, i.holds (digits + 1) p with
  | true, true => some (if i.above digits p then digits + 1 else digits)
  | true, false => some digits
  | false, true => some (digits + 1)
  | false, false => none

/-- The first grid with a hit among `count` grids from step `10 ^ p` down. -/
def Interval.search (i : Interval) : Nat → Int → Decimal
  | 0, p => ⟨i.floor p, p⟩
  | count + 1, p =>
    match i.hit? p with
    | some digits => ⟨digits, p⟩
    | none => i.search count (p - 1)

/-- The shortest decimal that reads back as a positive magnitude. -/
def shortestDecimal (x : Magnitude) : Decimal :=
  let bits : Int := x.mantissa.log2 + 1 + x.exponent
  (Interval.of x).search 24 (Int.fdiv (bits * 30103) 100000 + 1)

/-- How a decimal number is laid out: positional while the exponent of its first digit lies between
two bounds, else one digit before the point and a signed exponent. -/
structure Layout where
  lowest : Int
  highest : Int

/-- The digits with a point after the first `n`; a zero stands where no digit would. -/
def pointAfter (n : Nat) (digits : List Char) : List Char :=
  let whole := digits.take n ++ List.replicate (n - digits.length) '0'
  let part := digits.drop n
  whole ++ '.' :: (if part.isEmpty then ['0'] else part)

/-- The text of a decimal number whose digits do not end in a zero. -/
def Layout.write (l : Layout) (d : Decimal) : List Char :=
  let digits := (toString d.digits).toList
  let first : Int := d.exponent + digits.length - 1
  if l.lowest ≤ first ∧ first ≤ l.highest then
    if 0 ≤ first then pointAfter (first.toNat + 1) digits
    else '0' :: '.' :: List.replicate ((-first).toNat - 1) '0' ++ digits
  else
    let part := digits.drop 1
    digits.take 1 ++ (if part.isEmpty then [] else '.' :: part) ++ 'e' ::
      (if first < 0 then '-' else '+') :: (toString first.natAbs).toList

/-- Numbers are positional from 0.00001 on and below 10¹⁶. -/
def Binary64.layout : Layout := ⟨-5, 15⟩

/-- The shortest text that reads back as the number, always with a point or an exponent. -/
def Binary64.text (x : Binary64) : List Char :=
  let size := if x.magnitude.mantissa = 0 then ['0', '.', '0']
    else Binary64.layout.write (shortestDecimal x.magnitude)
  if x.negative then '-' :: size else size

end RecordFix.Number
