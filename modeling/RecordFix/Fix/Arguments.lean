import RecordFix.Fix.Expression
import RecordFix.Error
import RecordFix.Regex.Parser
import RecordFix.Text.Integer
import RecordFix.Text.Search

/-!
# Parameters and options

How functions and predicates read what they are invoked with.
-/

namespace RecordFix

namespace Arguments

/-- The parameter at an index. -/
def param (operation : String) (params : List String) (index : Nat) : Except FixError String :=
  match params[index]? with
  | some text => .ok text
  | none => .error (.missingParameter operation index)

/-- A whole number. -/
def integer (text : String) : Except FixError Int :=
  match Text.integer? text.toList with
  | some n => .ok n
  | none => .error (.numberFormat text)

/-- A regular expression. -/
def pattern (text : String) : Except FixError Pattern :=
  match Pattern.parse? text with
  | some p => .ok p
  | none => .error (.invalidPattern text)

end Arguments

namespace Options

/-- Whether an option says `true`, in any case. -/
def isTrue (options : Options) (name : String) : Bool :=
  match Entries.get? options name with
  | some text => Text.sameLetters text "true"
  | none => false

/-- A whole number that an option gives, or the default. -/
def integer (options : Options) (name : String) (default : Int) : Except FixError Int :=
  match Entries.get? options name with
  | some text => Arguments.integer text
  | none => .ok default

end Options

end RecordFix
