import RecordFix.Hash
import RecordFix.Path.Basic
import RecordFix.Value.Json

/-!
# Writing along a path

Writing makes the fields that are missing on the way, and fails where a segment means a position
that does not exist or the path goes on below a string. What is written before a failure stays.
-/

namespace RecordFix

/-- Whether writing replaces what is at the end of the path or adds to it. -/
inductive WriteMode where
  | replace
  | append
  deriving DecidableEq, Repr

namespace Value

/-- The error for a segment that means a position which the array does not have. -/
def noPosition (segment : String) (items : List Value) : FixError :=
  .pathResolution segment (Value.array items).text

/-- Edits the items one after the other until an edit fails. -/
def editItems (edit : Value → Edited Value) : List Value → Edited (List Value)
  | [] => ⟨[], none⟩
  | v :: rest =>
    let first := edit v
    match first.error with
    | some e => ⟨first.value :: rest, some e⟩
    | none => (editItems edit rest).map (first.value :: ·)

/-- Edits the fields that a pattern names one after the other until an edit fails. -/
def editFields (p : FieldPattern) (edit : Value → Edited Value) : Hash → Edited Hash
  | [] => ⟨[], none⟩
  | (name, v) :: rest =>
    if p.holds name then
      let first := edit v
      match first.error with
      | some e => ⟨(name, first.value) :: rest, some e⟩
      | none => (editFields p edit rest).map ((name, first.value) :: ·)
    else (editFields p edit rest).map ((name, v) :: ·)

/-- The container that is made for a missing field. The segment after it decides: a new place needs
an array, a position cannot be had, and otherwise the name of the field tells array from hash. -/
def newContainer (field : String) (tail : Path) : Except FixError Value :=
  match tail.head?.map fun segment => (segment, Path.Step.ofSegment segment) with
  | some (_, .append) => .ok (.array [])
  | some (segment, .position _) => .error (noPosition segment [])
  | _ =>
    if Hash.arrayMarker.toList.isSuffixOf field.toList then .ok (.array []) else .ok (.hash [])

/-- The container that is made for a new item of an array. -/
def newItem (tail : Path) : Value :=
  if tail.head? = some Path.appendSegment then .array [] else .hash []

/-- Goes on in the fields that a segment names, or in a new field. -/
def insertFields (head : String) (tail : Path) (next : Value → Edited Value) (fields : Hash) :
    Edited Hash :=
  if Hash.hasMatch fields head then editFields (.ofString head) next fields
  else
    match newContainer head tail with
    | .error e => ⟨fields, some e⟩
    | .ok container => (next container).map (Entries.put fields head)

/-- Goes on in the items that a segment means, or in a new item, which is kept if all goes well. -/
def insertItems (head : String) (tail : Path) (next : Value → Edited Value) (items : List Value) :
    Edited (List Value) :=
  match Path.Step.ofSegment head with
  | .append =>
    let made := next (newItem tail)
    match made.error with
    | some e => ⟨items, some e⟩
    | none => ⟨items ++ [made.value], none⟩
  | .all => editItems (fun v => if v.kind = .string then ⟨v, none⟩ else next v) items
  | .field =>
    let made := insertFields head tail next []
    match made.error with
    | some e => ⟨items, some e⟩
    | none => ⟨items ++ [.hash made.value], none⟩
  | .position p =>
    match p.index? items.length with
    | none => ⟨items, some (noPosition head items)⟩
    | some i =>
      match items[i]? with
      | none => ⟨items, none⟩
      | some v => (next v).map (items.set i)

/-- Writes at the last segment of a path into a hash. -/
def writeField (mode : WriteMode) (v : Value) (field : String) (fields : Hash) : Hash :=
  match mode with
  | .replace => Entries.put fields field v
  | .append => Hash.append fields field v

/-- Writes at the last segment of a path into an array. -/
def writeItem (v : Value) (segment : String) (items : List Value) : Edited (List Value) :=
  match Path.Step.ofSegment segment with
  | .append => ⟨items ++ [v], none⟩
  | .all => ⟨items.map fun _ => v, none⟩
  | .field => ⟨items ++ [.hash (Hash.append [] segment v)], none⟩
  | .position p =>
    match p.index? items.length with
    | none => ⟨items, some (noPosition segment items)⟩
    | some i => ⟨items.set i v, none⟩

/-- Writes a value at the end of a path. -/
def insert (mode : WriteMode) (v : Value) : Path → Value → Edited Value
  | [], target => ⟨target, none⟩
  | [segment], target =>
    match target with
    | .string s => ⟨.string s, some (.typeMismatch .hash .string)⟩
    | .hash fields => ⟨.hash (writeField mode v segment fields), none⟩
    | .array items => (writeItem v segment items).map .array
  | head :: next :: tail, target =>
    match target with
    | .string s => ⟨.string s, some (.typeMismatch .hash .string)⟩
    | .hash fields =>
      (insertFields head (next :: tail) (insert mode v (next :: tail)) fields).map .hash
    | .array items =>
      (insertItems head (next :: tail) (insert mode v (next :: tail)) items).map .array

end Value

namespace Hash

/-- Writes a value at the end of a path. -/
def insert (h : Hash) (mode : WriteMode) (p : Path) (v : Value) : Edited Hash :=
  (Value.insert mode v p (.hash h)).map fun
    | .hash fields => fields
    | _ => h

/-- A write into a hash is the write into the value that the hash is. -/
theorem map_hash_insert (h : Hash) (mode : WriteMode) (p : Path) (v : Value) :
    (h.insert mode p v).map .hash = Value.insert mode v p (.hash h) := by
  rcases p with - | ⟨head, - | ⟨next, tail⟩⟩ <;> rfl

/-- Writes a value at the end of a path in place of what is there. -/
def setPath (h : Hash) (p : Path) (v : Value) : Edited Hash := h.insert .replace p v

/-- Adds a value to what is at the end of a path. -/
def appendPath (h : Hash) (p : Path) (v : Value) : Edited Hash := h.insert .append p v

end Hash

end RecordFix
