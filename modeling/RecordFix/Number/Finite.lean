import RecordFix.Text.Integer

/-!
# Decimal text of a finite number

The grammar of decimal numbers as people write them: a sign, digits with a point among, before or
after them, and an exponent. A number beyond the range of sixty-four bit binary numbers is not
finite.
-/

namespace RecordFix.Number

/-- A number written in decimal: its digits with the point removed and the power of ten. -/
structure Written where
  digits : List Char
  exponent : Int

/-- Reads an exponent with its sign. -/
def exponent? (text : List Char) : Option Int :=
  match text with
  | '-' :: rest => (Text.unsigned? rest).map fun n => -(n : Int)
  | '+' :: rest => (Text.unsigned? rest).map fun n => (n : Int)
  | _ => (Text.unsigned? text).map fun n => (n : Int)

/-- Reads a number without sign. -/
def Written.read? (text : List Char) : Option Written :=
  let whole := text.takeWhile Char.isDigit
  let (part, rest) := match text.dropWhile Char.isDigit with
    | '.' :: rest => (rest.takeWhile Char.isDigit, rest.dropWhile Char.isDigit)
    | rest => ([], rest)
  let digits := whole ++ part
  if digits.isEmpty then none
  else match rest with
    | [] => some ⟨digits, -(part.length : Int)⟩
    | c :: rest =>
      if c = 'e' ∨ c = 'E' then
        (exponent? rest).map fun e => ⟨digits, e - part.length⟩
      else none

/-- The least number that is rounded to infinity. -/
def overflow : Nat := Nat.pow 2 1024 - Nat.pow 2 970

/-- Whether the number is rounded to a finite one. The power of ten is formed only where the number
of digits does not decide. -/
def Written.isFinite (w : Written) : Bool :=
  let digits := w.digits.dropWhile (· == '0')
  let first : Int := w.exponent + digits.length
  if digits.isEmpty || first < 300 then true
  else if 400 < first then false
  else
    let n := (Text.digitsValue? digits).getD 0
    if 0 ≤ w.exponent then n * Nat.pow 10 w.exponent.toNat < overflow
    else n < overflow * Nat.pow 10 (-w.exponent).toNat

/-- Whether the text writes a finite number. -/
def isFiniteText (text : List Char) : Bool :=
  let unsigned := match text with
    | '-' :: rest => rest
    | '+' :: rest => rest
    | _ => text
  ((Written.read? unsigned).map Written.isFinite).getD false

end RecordFix.Number
