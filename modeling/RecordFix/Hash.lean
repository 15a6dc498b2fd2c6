import RecordFix.Glob
import RecordFix.Value.Basic

/-!
# Fields of a hash

Fields are found by pattern, in the order in which they stand. A value that is added to a field goes
behind what the field holds already.
-/

namespace RecordFix

namespace Hash

/-- The ending of the names of fields that always hold an array. -/
def arrayMarker : String := "[]"

/-- The fields that a pattern names. -/
def matching (h : Hash) (pattern : String) : Hash :=
  let p := FieldPattern.ofString pattern
  h.filter fun field => p.holds field.1

/-- The names of the fields that a pattern names. -/
def matchingNames (h : Hash) (pattern : String) : List String := (h.matching pattern).map (·.1)

/-- Whether the pattern names a field. -/
def hasMatch (h : Hash) (pattern : String) : Bool := !(h.matching pattern).isEmpty

/-- Several values as an array, one value as itself. -/
def group : List Value → Option Value
  | [] => none
  | [v] => some v
  | values => some (.array values)

/-- What the fields hold that a pattern names: the value of one, or the values of several. -/
def find (h : Hash) (pattern : String) : Option Value := group ((h.matching pattern).map (·.2))

/-- Sets a field that exists; says whether it does. -/
def replace (h : Hash) (field : String) (v : Value) : Hash × Bool :=
  if Entries.has h field then (Entries.put h field v, true) else (h, false)

/-- Adds a value to a field. A field that exists becomes an array of what it held and what is
added. -/
def add (h : Hash) (field : String) (v : Value) : Hash :=
  match Entries.get? h field with
  | some held => Entries.put h field (.array (held.toList ++ v.toList))
  | none => Entries.put h field v

/-- Adds a value to a field; a new field with the array marker starts as an array. -/
def append (h : Hash) (field : String) (v : Value) : Hash :=
  if arrayMarker.toList.isSuffixOf field.toList && !Entries.has h field then
    Entries.put h field (.array v.toList)
  else add h field v

/-- Removes the fields that a pattern names. -/
def remove (h : Hash) (pattern : String) : Hash :=
  let p := FieldPattern.ofString pattern
  h.filter fun field => !p.holds field.1

/-- Keeps the fields that one of the patterns names. -/
def retain (h : Hash) (patterns : List String) : Hash :=
  let ps := patterns.map FieldPattern.ofString
  h.filter fun field => ps.any (·.holds field.1)

/-- The names and values in turn. -/
def toItems (h : Hash) : List Value := h.flatMap fun (name, v) => [.string name, v]

/-- The hash without empty values, at any depth. -/
def removeEmpty (h : Hash) : Hash := Value.removeEmptyFields h

end Hash

end RecordFix
