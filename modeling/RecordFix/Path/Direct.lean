import RecordFix.Path.Basic
import RecordFix.Value.Basic

/-!
# Direct paths

A direct path leads to exactly one place: each segment is the exact name of a field or the position
of an item. Wildcards and segments that go through the items of an array lead nowhere here.
-/

namespace RecordFix

namespace Value

/-- The value at a direct path. -/
def direct? : Path → Value → Option Value
  | [], v => some v
  | head :: tail, v =>
    match v with
    | .string _ => none
    | .hash fields => (Entries.get? fields head).bind (direct? tail)
    | .array items =>
      match Path.Step.ofSegment head with
      | .position p => ((p.index? items.length).bind (items[·]?)).bind (direct? tail)
      | _ => none

/-- Changes the value at a direct path, and nothing if the path leads nowhere. -/
def modifyDirect (f : Value → Value) : Path → Value → Value
  | [], v => f v
  | head :: tail, v =>
    match v with
    | .string s => .string s
    | .hash fields =>
      match Entries.get? fields head with
      | some child => .hash (Entries.put fields head (modifyDirect f tail child))
      | none => .hash fields
    | .array items =>
      match Path.Step.ofSegment head with
      | .position p =>
        match p.index? items.length with
        | some i => .array (items.modify i (modifyDirect f tail))
        | none => .array items
      | _ => .array items

end Value

namespace Hash

/-- The items of the array at a direct path. -/
def directArray? (h : Hash) (p : Path) : Option (List Value) :=
  match (Value.hash h).direct? p with
  | some (.array items) => some items
  | _ => none

/-- Changes the array at a direct path, and nothing if there is none. -/
def modifyArray (h : Hash) (p : Path) (f : List Value → List Value) : Hash :=
  let change : Value → Value := fun
    | .array items => .array (f items)
    | v => v
  match (Value.hash h).modifyDirect change p with
  | .hash fields => fields
  | _ => h

end Hash

end RecordFix
