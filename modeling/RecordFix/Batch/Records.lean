import RecordFix.Batch.Error
import RecordFix.Record
import RecordFix.Text.Search
import RecordFix.Value.Json

/-!
# Records as text

Records are read from an array of objects, or from objects one after the other, and written as an
array.
-/

namespace RecordFix

namespace Records

/-- The documents of a text: the items of an array, or documents one after the other. -/
def documents? (text : String) : Option (List Json) :=
  if (Text.trimStart text.toList).head? = some '[' then
    match Json.parse? text with
    | some (.array items) => some items
    | _ => none
  else Json.documents? text.toList

/-- The records of documents, which must be objects; the first has the given index. -/
def ofDocuments (index : Nat) : List Json → Except BatchError (List Record)
  | [] => .ok []
  | document :: rest =>
    match Value.ofJson? document with
    | some (.hash fields) => (ofDocuments (index + 1) rest).map (Record.ofFields fields :: ·)
    | _ => .error (.notAnObject index)

/-- The records of a text; there must be at least one. -/
def parse (text : String) : Except BatchError (List Record) :=
  match documents? text with
  | none => .error .json
  | some [] => .error .emptyInput
  | some documents => ofDocuments 0 documents

/-- The fields of records as a document. -/
def toJson (records : List Record) : Json :=
  .array (records.map fun record => (Value.hash record.fields).toJson)

end Records

end RecordFix
