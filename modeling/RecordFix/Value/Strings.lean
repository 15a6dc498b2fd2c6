import RecordFix.Value.Basic

/-!
# The strings of a value

Arrays within arrays are flattened; hashes are passed over when strings are wanted.
-/

namespace RecordFix.Value

mutual

/-- The values of a tree of arrays in order. -/
def flat : Value → List Value
  | .string s => [.string s]
  | .array items => flatten items
  | .hash fields => [.hash fields]

/-- Values with every array replaced by its items, at any depth. -/
def flatten : List Value → List Value
  | [] => []
  | v :: rest => v.flat ++ flatten rest

end

/-- The string, if the value is one. -/
def string? : Value → Option String
  | .string s => some s
  | _ => none

/-- The strings of a tree of arrays in order. -/
def strings (v : Value) : List String := v.flat.filterMap string?

theorem flatten_eq_flatMap (values : List Value) : flatten values = values.flatMap flat := by
  induction values with
  | nil => rw [flatten, List.flatMap_nil]
  | cons v rest ih => rw [flatten, List.flatMap_cons, ih]

@[simp] theorem strings_string (s : String) : (string s).strings = [s] := by
  rw [strings, flat]; rfl

@[simp] theorem strings_hash (fields : List (String × Value)) : (hash fields).strings = [] := by
  rw [strings, flat]; rfl

@[simp] theorem strings_array (items : List Value) :
    (array items).strings = items.flatMap strings := by
  rw [strings, flat, flatten_eq_flatMap, List.filterMap_flatMap]
  rfl

end RecordFix.Value
