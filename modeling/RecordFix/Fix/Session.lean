import RecordFix.Fix.Expression
import RecordFix.Fix.Variables
import RecordFix.MapRegistry
import RecordFix.Record

/-!
# The state of a run

A session lasts from record to record: variables, lookup tables, where files of tables are found,
what is registered under the names of a host, and the random numbers that are still to come. The
record at hand changes along with it.
-/

namespace RecordFix

/-- The numbers that chance gives, one after the other, and how many of them have been taken. -/
structure Chance where
  number : Nat → Nat
  taken : Nat := 0

/-- The same number every time. -/
instance (n : Nat) : OfNat Chance n := ⟨{ number := fun _ => n }⟩

/-- Takes the next number, brought below a bound. -/
def Chance.below (c : Chance) (bound : Nat) : Nat × Chance :=
  (c.number c.taken % bound, { c with taken := c.taken + 1 })

/-- The names under which functions and predicates of a host are registered, each with the name that
the host itself has for what is registered. They are functions of sessions themselves, so a session
holds their names only. -/
structure Registry where
  functions : Entries String := []
  predicates : Entries String := []

/-- What lasts from record to record. Without a registry the functions and predicates of the host
are registered as the host has them. -/
structure Session where
  vars : Entries String := []
  maps : MapRegistry := []
  baseDir : Option String := none
  files : Files := Files.empty
  registry : Option Registry := none
  chance : Chance := 0

namespace Session

/-- Sets a variable. -/
def putVar (s : Session) (name text : String) : Session :=
  { s with vars := Entries.put s.vars name text }

/-- A text with variables replaced. -/
def resolve (s : Session) (text : String) : String := Variables.resolve s.vars text

/-- Whether a table of this name may be looked for among the files. -/
def isPath (name : String) : Bool := name.toList.any fun c => c == '.' || c == '/'

/-- The table of this name. It is read from a file first if it is not known and its name may be a
path. -/
def findMap (s : Session) (name : String) : Except MapError (Option MapSource × Session) :=
  if !Entries.has s.maps name && isPath name then do
    let maps ← s.maps.load s.files name name s.baseDir {}
    pure (Entries.get? maps name, { s with maps })
  else pure (Entries.get? s.maps name, s)

/-- Draws a random number below a bound. -/
def draw (s : Session) (bound : Nat) : Nat × Session :=
  let (n, chance) := s.chance.below bound
  (n, { s with chance })

end Session

/-- The state of a run: the session and the record at hand. -/
structure State where
  session : Session
  record : Record

namespace State

/-- Edits the record. -/
def editRecord (s : State) (f : Record → Edited Record) : Edited State :=
  (f s.record).map fun record => { s with record }

/-- Edits the fields of the record. -/
def editFields (s : State) (f : Hash → Edited Hash) : Edited State :=
  s.editRecord fun record => record.edit f

/-- Applies a function to every value that a path leads to. -/
def transform (s : State) (path : String) (f : Value → Except FixError (Option Value)) :
    Edited State :=
  s.editFields fun fields => fields.transform (Path.ofString path) f

/-- Replaces every value that a path leads to. -/
def replace (s : State) (path : String) (f : Value → Except FixError Value) : Edited State :=
  s.transform path fun v => (f v).map some

/-- Changes every string that a path leads to; other values are an error. -/
def replaceStrings (s : State) (path : String) (f : String → String) : Edited State :=
  s.replace path fun v => v.asString.map fun t => .string (f t)

end State

/-- An edit that may turn out to be impossible before anything has changed. -/
def Edited.attempt {α : Type} (before : α) : Except FixError (Edited α) → Edited α
  | .ok e => e
  | .error e => ⟨before, some e⟩

end RecordFix
