import RecordFix.Error
import RecordFix.Text.Integer

/-!
# Format texts

A format text is filled in with values. A directive is a percent sign, a minus sign if wanted, a
width in digits if wanted, and the letter `s`: it stands for the next value, with blanks up to the
width before it, or behind it if there is a minus sign. Two percent signs stand for one.
-/

namespace RecordFix.Format

/-- The greatest width of a directive. -/
def maxWidth : Nat := 4096

/-- Where reading a format text stands: outside a directive, after its percent sign, or after that
with the minus sign and the digits so far. -/
inductive Place where
  | outside
  | percent
  | directive (left : Bool) (digits : List Char)

/-- An error about a format text. -/
def failure (message : String) : FixError := .invalidArgument "format" message

/-- A value with blanks up to a width. -/
def pad (left : Bool) (width : Nat) (value : List Char) : List Char :=
  let blanks := List.replicate (width - value.length) ' '
  if left then value ++ blanks else blanks ++ value

/-- The width that digits write; without digits it is zero. -/
def width (digits : List Char) : Except FixError Nat :=
  match Text.digitsValue? digits with
  | some n =>
    if n ≤ maxWidth then .ok n
    else .error (failure ("width " ++ .ofList digits ++ " exceeds " ++ toString maxWidth))
  | none => .ok 0

/-- A directive filled in with the first value, and the values after it. -/
def fill (left : Bool) (digits : List Char) :
    List String → Except FixError (List Char × List String)
  | [] => .error (failure "not enough values")
  | value :: rest => (width digits).map fun w => (pad left w value.toList, rest)

/-- The error for a directive that goes on with a character, or ends with the text. -/
def unsupported (c : Option Char) : FixError :=
  failure ("unsupported directive: %" ++ .ofList c.toList)

/-- The rest of a format text filled in with values. -/
def fillFrom : Place → List String → List Char → Except FixError (List Char)
  | .outside, _, [] => .ok []
  | .percent, _, [] => .error (unsupported none)
  | .directive _ _, _, [] => .error (unsupported none)
  | .outside, values, c :: rest =>
    if c = '%' then fillFrom .percent values rest
    else (fillFrom .outside values rest).map (c :: ·)
  | .percent, values, c :: rest =>
    if c = '%' then (fillFrom .outside values rest).map ('%' :: ·)
    else if c = '-' then fillFrom (.directive true []) values rest
    else if c.isDigit then fillFrom (.directive false [c]) values rest
    else if c = 's' then do
      let (text, others) ← fill false [] values
      let after ← fillFrom .outside others rest
      pure (text ++ after)
    else .error (unsupported (some c))
  | .directive left digits, values, c :: rest =>
    if c.isDigit then fillFrom (.directive left (digits ++ [c])) values rest
    else if c = 's' then do
      let (text, others) ← fill left digits values
      let after ← fillFrom .outside others rest
      pure (text ++ after)
    else .error (unsupported (some c))

/-- A format text filled in with values. -/
def format (text : String) (values : List String) : Except FixError String :=
  (fillFrom .outside values text.toList).map String.ofList

end RecordFix.Format
