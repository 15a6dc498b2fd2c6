import RecordFix.Error
import RecordFix.Files

/-!
# Errors of a run over many records

What ends a run as a whole, and the message for it.
-/

namespace RecordFix

/-- Why a run over many records ends early or does not begin. -/
inductive BatchError where
  | fix (cause : FixError)
  | recordFailed (index : Nat) (cause : FixError)
  | json
  | file (cause : FileError)
  | notAnObject (index : Nat)
  | emptyInput
  deriving DecidableEq, Repr

/-- The message of an error of a run. -/
def BatchError.message : BatchError → String
  | .fix cause => "Fix error: " ++ cause.message
  | .recordFailed index cause => "Record " ++ toString index ++ " failed: " ++ cause.message
  | .json => "JSON error: not a document of the form that is wanted"
  | .file cause => "IO error: " ++ cause.message
  | .notAnObject index => "Record " ++ toString index ++ " is not a JSON object"
  | .emptyInput => "No records to transform"

end RecordFix
