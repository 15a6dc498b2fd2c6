import RecordFix.Hash
import RecordFix.Path.Basic

/-!
# Removing along a path

Removing takes away everything that a path leads to, and does nothing where it leads nowhere.
-/

namespace RecordFix

namespace Value

/-- Changes the values of the fields that a pattern names. -/
def mapFields (p : FieldPattern) (f : Value → Value) (fields : Hash) : Hash :=
  fields.map fun (name, v) => (name, if p.holds name then f v else v)

mutual

/-- Takes the first segment of a path; `next` removes along the rest, which is none at a leaf. -/
def removeStep (head : String) (next : Option (Value → Value)) : Value → Value
  | .string s => .string s
  | .hash fields =>
    match next with
    | none => .hash (Hash.remove fields head)
    | some f => .hash (mapFields (.ofString head) f fields)
  | .array items =>
    match Path.Step.ofSegment head with
    | .append => .array items
    | .all =>
      match next with
      | none => .array []
      | some f => .array (items.map f)
    | .position p =>
      match p.index? items.length, next with
      | none, _ => .array items
      | some i, none => .array (items.eraseIdx i)
      | some i, some f => .array (items.modify i f)
    | .field => .array (removeStepItems head next items)

/-- Takes the first segment of a path in each of the items. -/
def removeStepItems (head : String) (next : Option (Value → Value)) : List Value → List Value
  | [] => []
  | v :: rest => removeStep head next v :: removeStepItems head next rest

end

/-- Removes what a path leads to. -/
def remove : Path → Value → Value
  | [], v => v
  | [segment], v => removeStep segment none v
  | head :: next :: tail, v => removeStep head (some (remove (next :: tail))) v

end Value

namespace Hash

/-- Removes what a path leads to. -/
def removePath (h : Hash) (p : Path) : Hash :=
  match Value.remove p (.hash h) with
  | .hash fields => fields
  | _ => h

theorem removePath_singleton (h : Hash) (segment : String) :
    h.removePath [segment] = h.remove segment := by
  simp only [removePath, Value.remove, Value.removeStep]

end Hash

end RecordFix
