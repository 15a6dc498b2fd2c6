import RecordFix.Json.Basic
import RecordFix.Text.Integer

/-!
# Numbers in JSON text

A number is written as a whole part without leading zeros, then a fraction and an exponent if
wanted. A whole number that fits is kept; any other is the first digits that fit sixty-four bits,
rounded and then multiplied or divided by a power of ten, rounded again. Numbers out of range are
refused.
-/

namespace RecordFix.Json

open RecordFix.Number

/-- A number as written: the digits of its parts, none of the fraction or exponent if absent. -/
structure Literal where
  negative : Bool
  whole : List Char
  fraction : Option (List Char)
  exponent : Option (Bool × List Char)

/-- Splits off the digits at the start of a text. -/
def takeDigits (text : List Char) : List Char × List Char :=
  (text.takeWhile Char.isDigit, text.dropWhile Char.isDigit)

/-- Reads the exponent that is left after the fraction; `true` marks a negative one. -/
def Literal.exponent? (text : List Char) : Option (Option (Bool × List Char)) :=
  match text with
  | [] => some none
  | c :: rest =>
    if c = 'e' ∨ c = 'E' then
      let (negative, digits) := match rest with
        | '-' :: digits => (true, digits)
        | '+' :: digits => (false, digits)
        | digits => (false, digits)
      if digits.isEmpty || digits.any (!·.isDigit) then none else some (some (negative, digits))
    else none

/-- Reads a whole text as a number. -/
def Literal.read? (text : List Char) : Option Literal :=
  let (negative, unsigned) := match text with
    | '-' :: rest => (true, rest)
    | _ => (false, text)
  let (whole, rest) := takeDigits unsigned
  if whole.isEmpty || (whole.length != 1 && whole.head? == some '0') then none
  else match rest with
    | '.' :: rest =>
      let (fraction, rest) := takeDigits rest
      if fraction.isEmpty then none
      else (Literal.exponent? rest).map fun e => ⟨negative, whole, some fraction, e⟩
    | _ => (Literal.exponent? rest).map fun e => ⟨negative, whole, none, e⟩

/-- Digits taken into a number of sixty-four bits, and a power of ten. -/
structure Scaled where
  significand : Nat
  exponent : Int

/-- The number with one more digit, if it still fits. -/
def appendDigit? (n : Nat) (digit : Char) : Option Nat :=
  let next := n * 10 + (digit.toNat - 48)
  if next < UInt64.size then some next else none

/-- Takes whole digits while they fit; each digit after that is a factor of ten. -/
def Scaled.whole (n : Nat) : List Char → Scaled
  | [] => ⟨n, 0⟩
  | digit :: rest =>
    match appendDigit? n digit with
    | some next => Scaled.whole next rest
    | none => ⟨n, (rest.length : Int) + 1⟩

/-- Takes digits of the fraction while they fit and leaves out the others. -/
def Scaled.fraction (x : Scaled) : List Char → Scaled
  | [] => x
  | digit :: rest =>
    match appendDigit? x.significand digit with
    | some next => Scaled.fraction ⟨next, x.exponent - 1⟩ rest
    | none => x

/-- A number times a power of ten. Beyond the powers of the format it is divided by `10 ^ 308`
first, which leaves zero after four times. -/
def scale : Nat → Magnitude → Int → Option Magnitude
  | 0, _, _ => some .zero
  | steps + 1, x, e =>
    if e.natAbs ≤ 308 then
      (Magnitude.nearest (Nat.pow 10 e.natAbs) 1).bind fun power =>
        if 0 ≤ e then x.mul power else x.div power
    else if x.mantissa = 0 then some x
    else if 0 ≤ e then none
    else
      ((Magnitude.nearest (Nat.pow 10 308) 1).bind x.div).bind fun y => scale steps y (e + 308)

/-- The value of a number with a fraction or an exponent, or too long for a whole number. -/
def Scaled.binary? (x : Scaled) (negative : Bool) : Option Number :=
  ((Magnitude.nearest x.significand 1).bind fun m => scale 8 m x.exponent).map fun m =>
    .binary ⟨negative, m⟩

/-- The value of a number of sixty-four bits that was written without fraction and exponent. -/
def wholeNumber (negative : Bool) (n : Nat) : Option Number :=
  if !negative then some (.natural n)
  else if n != 0 && n ≤ 0x8000000000000000 then some (.below n)
  else (Magnitude.nearest n 1).map fun m => .binary ⟨true, m⟩

/-- The value of a number as written. -/
def Literal.value? (l : Literal) : Option Number :=
  let whole := Scaled.whole 0 l.whole
  match l.fraction, l.exponent with
  | none, none =>
    if whole.exponent = 0 then wholeNumber l.negative whole.significand
    else whole.binary? l.negative
  | fraction, exponent =>
    let x := whole.fraction (fraction.getD [])
    match exponent with
    | none => x.binary? l.negative
    | some (below, digits) =>
      let e := (Text.digitsValue? digits).getD 0
      if 0x80000000 ≤ e then
        if x.significand != 0 && !below then none else some (.binary ⟨l.negative, .zero⟩)
      else
        let exponent := if below then x.exponent - e else x.exponent + e
        Scaled.binary? ⟨x.significand, exponent⟩ l.negative

/-- The number that a text writes. -/
def Number.read? (text : List Char) : Option Number := (Literal.read? text).bind Literal.value?

end RecordFix.Json
