import RecordFix.Path.Copy
import RecordFix.Path.Direct
import RecordFix.Path.Remove
import RecordFix.Path.Transform
import RecordFix.Value.Equality

/-!
# Records

Besides its fields a record has virtual fields, which its host sets. They are found where the record
has no field that a pattern names, and become fields when they are retained. A record may be marked
as rejected.
-/

namespace RecordFix

/-- A record. -/
structure Record where
  fields : Hash := []
  virtualFields : Hash := []
  rejected : Bool := false

namespace Record

/-- The virtual field that identifies a record. -/
def idField : String := "_id"

/-- A record with these fields. -/
def ofFields (fields : Hash) : Record := { fields }

/-- Sets a virtual field. -/
def putVirtual (r : Record) (field : String) (v : Value) : Record :=
  { r with virtualFields := Entries.put r.virtualFields field v }

/-- What the fields hold that a pattern names, or else the virtual fields. -/
def get (r : Record) (pattern : String) : Option Value :=
  if Hash.hasMatch r.fields pattern then Hash.find r.fields pattern
  else Hash.find r.virtualFields pattern

/-- What a path leads to; its first segment may name virtual fields. -/
def find (r : Record) (p : Path) : Option Value := (r.get p.head).bind (Value.find p.tail)

/-- Copies what is found along one path to another. -/
def copy (r : Record) (source target : Path) : Edited Record :=
  (r.fields.copyFound (r.find source) target).map fun fields => { r with fields }

/-- The fields with those virtual fields that they lack. -/
def promote (fields : Hash) : Hash → Hash
  | [] => fields
  | (name, v) :: rest =>
    promote (if Hash.hasMatch fields name then fields else Entries.put fields name v) rest

/-- Keeps the fields that one of the patterns names; virtual fields among them become fields. -/
def retain (r : Record) (patterns : List String) : Record :=
  let virtualFields := r.virtualFields.retain patterns
  { r with fields := (promote r.fields virtualFields).retain patterns, virtualFields }

/-- Edits the fields of a record. -/
def edit (r : Record) (f : Hash → Edited Hash) : Edited Record :=
  (f r.fields).map fun fields => { r with fields }

/-- Whether two records are the same up to the order of fields. -/
def same (a b : Record) : Bool :=
  Hash.same a.fields b.fields && Hash.same a.virtualFields b.virtualFields &&
    a.rejected == b.rejected

end Record

end RecordFix
