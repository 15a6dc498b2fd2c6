import RecordFix.Batch.Error
import RecordFix.Fix.Extension
import RecordFix.Json.Parser
import RecordFix.Json.Printer
import RecordFix.Json.Typed

/-!
# Configuration of a run

What is set before a run: variables, tables to read from files, where these are found, how records
are identified, and what becomes of records that fail or are rejected.
-/

namespace RecordFix

/-- What becomes of a record on which the fix fails: it is left out, it ends the run, or it is
passed on as far as it got. -/
inductive ErrorPolicy where
  | skip
  | halt
  | emit
  deriving DecidableEq, Repr

/-- A table to read before the first record. -/
structure MapSetting where
  path : String
  format : MapFormat := {}
  deriving DecidableEq, Repr

/-- The configuration of a run. -/
structure Config where
  vars : Entries String := []
  baseDir : Option String := none
  maps : Entries MapSetting := []
  idField : Option String := none
  onError : ErrorPolicy := .skip
  emitRejected : Bool := false

namespace ErrorPolicy

/-- The word for a policy. -/
def word : ErrorPolicy → String
  | .skip => "skip"
  | .halt => "halt"
  | .emit => "emit"

/-- The policy of this word. -/
def named? (word : String) : Option ErrorPolicy :=
  [skip, halt, emit].find? fun policy => policy.word == word

/-- The policy that a document tells by its word, or by an object with the word as its only key and
nothing in it. -/
def ofJson? : Json → Option ErrorPolicy
  | .string s => named? s
  | .object [(key, .null)] => named? key
  | _ => none

end ErrorPolicy

namespace MapSetting

/-- The fields of a setting. -/
def fields : List String := ["path", "sep_char", "key_column", "value_column", "encoding"]

/-- The setting that an object writes; all but the path may be left out. -/
def ofJson? : Json → Option MapSetting
  | .object members => do
    match ← Json.fields? fields (.object members) with
    | [path, separator, keyColumn, valueColumn, encoding] =>
      let default : MapFormat := {}
      let path ← Json.required Json.string? path
      let separator ← Json.optional default.separator Json.char? separator
      let keyColumn ← Json.optional default.keyColumn Json.natural? keyColumn
      let valueColumn ← Json.optional default.valueColumn Json.natural? valueColumn
      let encoding ← Json.optional none (Json.nullable Json.string?) encoding
      pure { path, format := { separator, keyColumn, valueColumn, encoding } }
    | _ => none
  | _ => none

/-- The settings that an object writes, by name. -/
def tableOfJson? : Json → Option (Entries MapSetting)
  | .object members =>
    (members.mapM fun member => (ofJson? member.2).map fun setting => (member.1, setting)).map
      Entries.ofList
  | _ => none

/-- The document of a setting. -/
def toJson (m : MapSetting) : Json :=
  .object [("path", .string m.path),
    ("sep_char", .string (String.singleton m.format.separator)),
    ("key_column", .number (.natural m.format.keyColumn)),
    ("value_column", .number (.natural m.format.valueColumn)),
    ("encoding", (m.format.encoding.map Json.string).getD .null)]

end MapSetting

namespace Config

/-- The fields of a configuration. -/
def fields : List String := ["vars", "base_dir", "maps", "id_field", "on_error", "emit_rejected"]

/-- The configuration that a document writes. All fields may be left out. -/
def ofJson? (j : Json) : Option Config := do
  match ← j.fields? fields with
  | [vars, baseDir, maps, idField, onError, emitRejected] =>
    let vars ← Json.optional [] Json.table? vars
    let baseDir ← Json.optional none (Json.nullable Json.string?) baseDir
    let maps ← Json.optional [] MapSetting.tableOfJson? maps
    let idField ← Json.optional none (Json.nullable Json.string?) idField
    let onError ← Json.optional .skip ErrorPolicy.ofJson? onError
    let emitRejected ← Json.optional false Json.bool? emitRejected
    pure { vars, baseDir, maps, idField, onError, emitRejected }
  | _ => none

/-- The document of a configuration. -/
def toJson (c : Config) : Json :=
  .object [("vars", .ofTable c.vars),
    ("base_dir", (c.baseDir.map Json.string).getD .null),
    ("maps", .object (c.maps.map fun (name, setting) => (name, setting.toJson))),
    ("id_field", (c.idField.map Json.string).getD .null),
    ("on_error", .string c.onError.word),
    ("emit_rejected", .bool c.emitRejected)]

/-- The configuration in a file. Its base directory is seen from the directory of the file, and is
that directory if none is given. -/
def load (files : Files) (path : String) : Except BatchError Config :=
  match files.readText path with
  | .error e => .error (.file e)
  | .ok text =>
    match (Json.parse? text).bind ofJson? with
    | none => .error .json
    | some c =>
      let directory := FilePath.parent path
      .ok { c with baseDir := some ((c.baseDir.map (FilePath.join directory)).getD directory) }

/-- Sets a variable. -/
def putVar (c : Config) (name text : String) : Config :=
  { c with vars := Entries.put c.vars name text }

/-- Reads the tables that a configuration lists. -/
def loadMaps (files : Files) (baseDir : Option String) :
    List (String × MapSetting) → MapRegistry → Except MapError MapRegistry
  | [], maps => .ok maps
  | (name, setting) :: rest, maps => do
    let maps ← maps.load files name setting.path baseDir setting.format
    loadMaps files baseDir rest maps

/-- The session that a configuration begins with. -/
def session (c : Config) (files : Files) (chance : Chance) : Except BatchError Session :=
  match loadMaps files c.baseDir c.maps [] with
  | .ok maps => .ok { vars := c.vars, maps, baseDir := c.baseDir, files, chance }
  | .error e => .error (.fix (.map e))

end Config

end RecordFix
