import RecordFix.Encoding.Named
import RecordFix.Error
import RecordFix.Files
import RecordFix.Mapping
import RecordFix.Table

/-!
# Lookup tables in files

A file of separated text gives a table: one column holds the keys and one the texts. Rows that lack
either column are passed over.
-/

namespace RecordFix

/-- How the file of a lookup table is read. Columns count from zero. -/
structure MapFormat where
  separator : Char := '\t'
  keyColumn : Nat := 0
  valueColumn : Nat := 1
  encoding : Option String := none
  deriving DecidableEq, Repr

namespace MapFormat

/-- Fails if the separator is not an ASCII character. -/
def check (f : MapFormat) : Except MapError Unit :=
  if f.separator.toNat < 0x80 then .ok () else .error (.invalidSeparator f.separator)

/-- The entry of a row, if it has both columns. -/
def entry? (f : MapFormat) (row : List String) : Option (String × String) :=
  match row[f.keyColumn]?, row[f.valueColumn]? with
  | some key, some text => some (key, text)
  | _, _ => none

/-- The table that a text holds. -/
def parse (f : MapFormat) (text : List Char) : Except MapError Mapping := do
  f.check
  pure (Entries.ofList ((Table.rows f.separator text).filterMap f.entry?))

end MapFormat

namespace MapFile

/-- The path of a table, which is looked for in the base directory if it is not absolute. -/
def locate (path : String) (baseDir : Option String) : Except MapError String :=
  if FilePath.isAbsolute path then .ok path
  else
    match baseDir with
    | some directory => .ok (FilePath.join directory path)
    | none => .error (.relativePath path)

/-- Reads a table from a file. -/
def load (files : Files) (path : String) (baseDir : Option String) (f : MapFormat) :
    Except MapError Mapping := do
  let place ← locate path baseDir
  match files place with
  | .file bytes => f.parse (Encoding.textOf f.encoding bytes (files.guess bytes)).1
  | .unread => .error (.unread place)
  | _ => .error (.fileNotFound place)

end MapFile

end RecordFix
