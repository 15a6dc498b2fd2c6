/-!
# Errors

Why an operation on a record fails, in causes, and the message for each cause.
-/

namespace RecordFix

/-- The kinds of value in a record. -/
inductive Kind where
  | array
  | hash
  | string
  deriving DecidableEq, Repr

/-- The name of a kind in messages. -/
def Kind.name : Kind → String
  | .array => "Array"
  | .hash => "Hash"
  | .string => "String"

/-- Why a lookup table cannot be found or read. `unread` marks a file that has not been looked at
yet, which happens only where files are read on demand. -/
inductive MapError where
  | fileNotFound (path : String)
  | relativePath (path : String)
  | invalidColumn (column : String)
  | invalidSeparator (separator : Char)
  | unread (path : String)
  deriving DecidableEq, Repr

/-- The message of an error about a lookup table. -/
def MapError.message : MapError → String
  | .fileNotFound path => "File not found: " ++ path
  | .relativePath path => "Cannot resolve relative path: " ++ path
  | .invalidColumn column => "Invalid column '" ++ column ++ "' for map"
  | .invalidSeparator separator =>
    "Invalid separator '" ++ String.singleton separator ++ "' for map: must be ASCII"
  | .unread path => "File not read yet: " ++ path

/-- Why an operation on a record fails. -/
inductive FixError where
  | typeMismatch (expected actual : Kind)
  | pathResolution (segment container : String)
  | unknownOperation (name : String)
  | map (cause : MapError)
  | numberFormat (text : String)
  | invalidPattern (pattern : String)
  | missingParameter (operation : String) (index : Nat)
  | invalidArgument (operation message : String)
  deriving DecidableEq, Repr

/-- The message of an error. -/
def FixError.message : FixError → String
  | .typeMismatch expected actual => "expected " ++ expected.name ++ ", got " ++ actual.name
  | .pathResolution segment container =>
    "Using ref, but can't find: " ++ segment ++ " in: " ++ container
  | .unknownOperation name => "Unknown operation: " ++ name
  | .map cause => cause.message
  | .numberFormat text => "For input string: \"" ++ text ++ "\""
  | .invalidPattern pattern =>
    "Invalid pattern '" ++ pattern ++ "': not a regular expression"
  | .missingParameter operation index =>
    "Missing parameter " ++ toString index ++ " for '" ++ operation ++ "'"
  | .invalidArgument operation message =>
    "Invalid argument for '" ++ operation ++ "': " ++ message

instance decidableEqOutcome {ε α : Type} [DecidableEq ε] [DecidableEq α] :
    DecidableEq (Except ε α)
  | .ok a, .ok b => decidable_of_iff (a = b) (by simp)
  | .error e, .error f => decidable_of_iff (e = f) (by simp)
  | .ok _, .error _ | .error _, .ok _ => isFalse nofun

/-- What an edit leaves behind: the data as it stands, and the error that ended the edit early. -/
structure Edited (α : Type) where
  value : α
  error : Option FixError := none

namespace Edited

variable {α β : Type}

/-- Goes on with the data unless an error has ended the edit. -/
def andThen (e : Edited α) (next : α → Edited α) : Edited α :=
  match e.error with
  | none => next e.value
  | some _ => e

/-- The same outcome for other data. -/
def map (f : α → β) (e : Edited α) : Edited β := ⟨f e.value, e.error⟩

/-- Whether the edit came to its end. -/
def succeeded (e : Edited α) : Bool := e.error.isNone

@[simp] theorem map_value (f : α → β) (e : Edited α) : (e.map f).value = f e.value := rfl

@[simp] theorem map_error (f : α → β) (e : Edited α) : (e.map f).error = e.error := rfl

theorem map_map {γ : Type} (g : β → γ) (f : α → β) (e : Edited α) :
    (e.map f).map g = e.map fun a => g (f a) := rfl

theorem andThen_of_none {e : Edited α} (h : e.error = none) (next : α → Edited α) :
    e.andThen next = next e.value := by
  rw [andThen, h]

theorem andThen_of_some {e : Edited α} {err : FixError} (h : e.error = some err)
    (next : α → Edited α) : e.andThen next = e := by
  rw [andThen, h]

/-- What holds of going on after a success, and of a failure, holds of going on. -/
theorem andThen_elim {P : Edited α → Prop} {e : Edited α} {next : α → Edited α}
    (hdone : e.error = none → P (next e.value)) (hfailed : ∀ err, e.error = some err → P e) :
    P (e.andThen next) := by
  cases h : e.error with
  | none =>
    rw [andThen_of_none h]
    exact hdone h
  | some err =>
    rw [andThen_of_some h]
    exact hfailed err h

theorem andThen_assoc (e : Edited α) (f g : α → Edited α) :
    (e.andThen f).andThen g = e.andThen fun a => (f a).andThen g := by
  cases h : e.error with
  | none => rw [andThen_of_none h, andThen_of_none h]
  | some err => rw [andThen_of_some h, andThen_of_some h, andThen_of_some h]

end Edited

end RecordFix
