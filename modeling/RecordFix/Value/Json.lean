import RecordFix.Json.Parser
import RecordFix.Json.Printer
import RecordFix.Value.Basic

/-!
# Values and JSON

A document becomes a value with its numbers and truth values as text. Nulls are dropped wherever
they occur. Of the members of an object with the same key the first gives the place and the last the
value. A value is written as a document of strings, arrays and objects.
-/

namespace RecordFix

namespace Value

/-- The fields that have a value. -/
def present (fields : List (String × Option Value)) : Hash :=
  fields.filterMap fun (name, v) => v.map (name, ·)

mutual

/-- The value of a document; none for null. -/
def ofJson? : Json → Option Value
  | .null => none
  | .bool b => some (.string (if b then "true" else "false"))
  | .number n => some (.string (.ofList n.text))
  | .string s => some (.string s)
  | .array items => some (.array (ofJsonItems items))
  | .object members => some (.hash (present (Entries.ofList (ofJsonMembers members))))

/-- The values of the items of an array. -/
def ofJsonItems : List Json → List Value
  | [] => []
  | item :: rest => (ofJson? item).toList ++ ofJsonItems rest

/-- The members of an object as they are written. -/
def ofJsonMembers : List (String × Json) → List (String × Option Value)
  | [] => []
  | (key, member) :: rest => (key, ofJson? member) :: ofJsonMembers rest

end

mutual

/-- The document of a value. -/
def toJson : Value → Json
  | .string s => .string s
  | .array items => .array (toJsonItems items)
  | .hash fields => .object (toJsonMembers fields)

/-- The documents of the items of an array. -/
def toJsonItems : List Value → List Json
  | [] => []
  | v :: rest => v.toJson :: toJsonItems rest

/-- The members of the fields of a hash. -/
def toJsonMembers : List (String × Value) → List (String × Json)
  | [] => []
  | (name, v) :: rest => (name, v.toJson) :: toJsonMembers rest

end

/-- The text of a value: a string as it is, a container as a document. -/
def text : Value → String
  | .string s => s
  | v => v.toJson.compact

end Value

/-- The text of a hash. -/
def Hash.text (fields : Hash) : String := (Value.hash fields).text

end RecordFix
