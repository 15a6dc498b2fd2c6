import RecordFix.Fix.Arguments
import RecordFix.Fix.Session

/-!
# Functions on lookup tables

How tables are read from files, and how values are replaced by what a table has for them.
-/

namespace RecordFix

namespace Tables

/-- The separator that an option gives. -/
def separator (text : String) : Except FixError Char :=
  match text.toList with
  | [c] => if c.toNat < 0x80 then .ok c else failure
  | _ => failure
where
  failure : Except FixError Char :=
    .error (.invalidArgument "put_filemap"
      ("sep_char must be one ASCII character, got '" ++ text ++ "'"))

/-- The column that an option gives. -/
def column (text : String) : Except FixError Nat :=
  match Text.natural? text.toList with
  | some n => .ok n
  | none => .error (.map (.invalidColumn text))

/-- What an option gives, or else the default. -/
def orDefault {α : Type} (options : Options) (name : String) (default : α)
    (read : String → Except FixError α) : Except FixError α :=
  match Entries.get? options name with
  | some text => read text
  | none => .ok default

/-- How the file of a table is read according to options. -/
def format (options : Options) : Except FixError MapFormat := do
  let default : MapFormat := {}
  let separator ← orDefault options "sep_char" default.separator separator
  let keyColumn ← orDefault options "key_column" default.keyColumn column
  let valueColumn ← orDefault options "value_column" default.valueColumn column
  pure { separator, keyColumn, valueColumn, encoding := Entries.get? options "encoding" }

/-- Reads a table from a file into the session. -/
def load (s : Session) (name path : String) (f : MapFormat) : Except FixError Session :=
  match s.maps.load s.files name path s.baseDir f with
  | .ok maps => .ok { s with maps }
  | .error e => .error (.map e)

/-- The table to look values up in: a named one, or the options without the one for removal. -/
def source (s : Session) (name : Option String) (options : Options) :
    Except FixError (Option MapSource × Session) :=
  match name with
  | none => .ok (some (.table (Entries.erase options "delete")), s)
  | some n =>
    match s.findMap n with
    | .ok found => .ok found
    | .error e => .error (.map e)

/-- What a table has for a value. Without an entry the value is kept, or removed on demand. -/
def translate (table : Option MapSource) (delete : Bool) (v : Value) :
    Except FixError (Option Value) := do
  let key ← v.asString
  match table.bind (·.lookup key) with
  | some text => pure (some (.string text))
  | none => pure (if delete then none else some v)

end Tables

end RecordFix
