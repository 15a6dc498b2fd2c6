/-!
# Reading whole numbers

A whole number is written in the digits 0 to 9, with a sign in front if wanted, and nothing else.
Numbers that do not fit sixty-four bits are refused.
-/

namespace RecordFix.Text

/-- The number that a text of digits writes; none if another character occurs. -/
def digitsValue? (digits : List Char) : Option Nat :=
  digits.foldl
    (fun n c => if c.isDigit then n.map fun n => n * 10 + (c.toNat - 48) else none) (some 0)

/-- The number that a text writes which must not be empty and holds digits only. -/
def unsigned? (text : List Char) : Option Nat :=
  if text.isEmpty then none else digitsValue? text

/-- A natural number below 2⁶⁴; a plus sign may stand in front. -/
def natural? (text : List Char) : Option Nat :=
  let digits := match text with
    | '+' :: rest => rest
    | _ => text
  (unsigned? digits).filter (· < UInt64.size)

/-- The value of a hexadecimal digit. -/
def hexDigit? (c : Char) : Option Nat :=
  if c.isDigit then some (c.toNat - 48)
  else if 'a' ≤ c && c ≤ 'f' then some (c.toNat - 87)
  else if 'A' ≤ c && c ≤ 'F' then some (c.toNat - 55)
  else none

/-- Whether the number fits sixty-four bits with a sign. -/
def fitsInt64 (n : Int) : Bool := -0x8000000000000000 ≤ n && n < 0x8000000000000000

/-- A whole number of sixty-four bits; a plus or minus sign may stand in front. -/
def integer? (text : List Char) : Option Int :=
  let value : Option Int := match text with
    | '-' :: rest => (unsigned? rest).map fun n => -(n : Int)
    | '+' :: rest => (unsigned? rest).map fun n => (n : Int)
    | _ => (unsigned? text).map fun n => (n : Int)
  value.filter fitsInt64

end RecordFix.Text
