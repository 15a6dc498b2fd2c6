import RecordFix.Hash
import RecordFix.Path.Basic

/-!
# Reading along a path

Reading never fails: what cannot be found is absent. Several fields that a segment names are taken
together as an array before the path goes on. A path that goes through the items of an array
collects what it finds in an array, and finds nothing if that is empty.
-/

namespace RecordFix

namespace Value

/-- Values found in several places. -/
def collect (values : List Value) : Option Value :=
  if values.isEmpty then none else some (.array values)

mutual

/-- Takes the first segment of a path, and then goes on along `tail` with `next`. -/
def findStep (head : String) (tail : Path) (next : Value → Option Value) : Value → Option Value
  | .string _ => none
  | .hash fields => (Hash.find fields head).bind next
  | .array items =>
    match Path.Step.ofSegment head with
    | .append => none
    | .all => if tail.isEmpty then some (.array items) else collect (items.filterMap next)
    | .position p => ((p.index? items.length).bind (items[·]?)).bind next
    | .field => collect (findStepItems head tail next items)

/-- Takes the first segment of a path in each of the items. -/
def findStepItems (head : String) (tail : Path) (next : Value → Option Value) :
    List Value → List Value
  | [] => []
  | v :: rest => (findStep head tail next v).toList ++ findStepItems head tail next rest

end

/-- What a path leads to. -/
def find : Path → Value → Option Value
  | [], v => some v
  | head :: tail, v => findStep head tail (find tail) v

end Value

namespace Hash

/-- What a path leads to. -/
def findPath (h : Hash) (p : Path) : Option Value := (Value.hash h).find p

end Hash

end RecordFix
