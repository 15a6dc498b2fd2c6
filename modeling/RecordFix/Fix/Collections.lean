import RecordFix.Fix.Arguments
import RecordFix.Hash
import RecordFix.Value.Equality
import RecordFix.Value.Strings

/-!
# Functions on arrays and hashes

What the functions on arrays and hashes make of a value. Most take a value that is no array as an
array of one.
-/

namespace RecordFix

namespace Collections

/-- Items in pairs of a name and a value, added to fields one after the other. -/
def addPairs (fields : Hash) : List Value → Except FixError Hash
  | name :: v :: rest => do
    let field ← name.asString
    addPairs (fields.add field v) rest
  | _ => .ok fields

/-- The hash of an array of names and values in turn. -/
def toHash (v : Value) : Except FixError Value := do
  let items ← v.asArray
  if items.length % 2 = 1 then
    throw (.invalidArgument "hash" ("odd number of values: " ++ toString items.length))
  let fields ← addPairs [] items
  pure (.hash fields)

/-- The array of the names and values of a hash in turn. -/
def toArray (v : Value) : Except FixError Value := do
  let fields ← v.asHash
  pure (.array (Hash.toItems fields))

/-- How many items or fields a value has; a string counts as one. -/
def count : Value → Nat
  | .string _ => 1
  | .array items => items.length
  | .hash fields => fields.length

/-- The items that are strings and pass a test, or all others. -/
def filter (test : String → Bool) (invert : Bool) (v : Value) : Value :=
  .array (v.toList.filter fun item => (item.string?.any test) != invert)

/-- A whole number added to a sum that must fit sixty-four bits. -/
def addTo (sum : Int) (v : Value) : Except FixError Int := do
  let s ← v.asString
  let n ← Arguments.integer s
  if Text.fitsInt64 (sum + n) then pure (sum + n)
  else throw (.invalidArgument "sum" "sum out of integer range")

/-- The sum of the whole numbers in a value. -/
def sum (v : Value) : Except FixError Int := (Value.flatten v.toList).foldlM addTo 0

/-- A string with the whole number that it writes. -/
def keyed (s : String) : Except FixError (Int × String) := do
  let n ← Arguments.integer s
  pure (n, s)

/-- Strings in ascending order, of characters or of the numbers that they write. -/
def sorted (numeric : Bool) (strings : List String) : Except FixError (List String) :=
  if numeric then do
    let numbers ← strings.mapM keyed
    pure ((numbers.mergeSort fun a b => a.1 ≤ b.1).map (·.2))
  else pure (strings.mergeSort fun a b => a ≤ b)

/-- The strings in a value in order. -/
def sort (numeric reverse uniq : Bool) (v : Value) : Except FixError Value := do
  let values := Value.flatten v.toList
  let strings ← (if uniq then Value.unique values else values).mapM Value.asString
  let ordered ← sorted numeric strings
  pure (.ofStrings (if reverse then ordered.reverse else ordered))

/-- The items in reverse order, or the characters of a string. -/
def reverse : Value → Except FixError Value
  | .string s => .ok (.string (.ofList s.toList.reverse))
  | .array items => .ok (.array items.reverse)
  | .hash _ => .error (.typeMismatch .array .hash)

end Collections

end RecordFix
