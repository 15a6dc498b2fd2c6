import RecordFix.Entries
import RecordFix.Json.Basic

/-!
# Documents of known form

Reading a document whose form is known: strings, lists and tables of strings, and structures. A
structure is an object or an array of its fields in order. Members of an object that are no fields
are passed over, but a field must not be repeated. Fields at the end of an array may be left out.
-/

namespace RecordFix.Json

/-- The string, if the document is one. -/
def string? : Json → Option String
  | .string s => some s
  | _ => none

/-- The truth value, if the document is one. -/
def bool? : Json → Option Bool
  | .bool b => some b
  | _ => none

/-- The natural number, if the document is one. -/
def natural? : Json → Option Nat
  | .number (.natural n) => some n
  | _ => none

/-- The items, if the document is an array. -/
def items? : Json → Option (List Json)
  | .array items => some items
  | _ => none

/-- The single character of a string. -/
def char? : Json → Option Char
  | .string s =>
    match s.toList with
    | [c] => some c
    | _ => none
  | _ => none

/-- A list of strings. -/
def strings? (j : Json) : Option (List String) := j.items?.bind fun items => items.mapM string?

/-- A member of an object that must be a string. -/
def stringMember? : String × Json → Option (String × String)
  | (key, .string s) => some (key, s)
  | _ => none

/-- A pair of strings. -/
def stringPair? : Json → Option (String × String)
  | .array [.string key, .string s] => some (key, s)
  | _ => none

/-- A table of strings, which is an object. -/
def table? : Json → Option (Entries String)
  | .object members => (members.mapM stringMember?).map Entries.ofList
  | _ => none

/-- Something that may be null. -/
def nullable {α : Type} (read : Json → Option α) : Json → Option (Option α)
  | .null => some none
  | j => (read j).map some

/-- Whether a field is among the members more than once. -/
def isRepeated (members : List (String × Json)) (field : String) : Bool :=
  1 < (members.filter fun member => member.1 == field).length

/-- The fields of a structure, in order, as far as they are there. -/
def fields? (names : List String) : Json → Option (List (Option Json))
  | .object members =>
    if names.any (isRepeated members) then none
    else some (names.map fun name => members.lookup name)
  | .array items =>
    if items.length ≤ names.length then
      some (items.map some ++ List.replicate (names.length - items.length) none)
    else none
  | _ => none

/-- A field that must be there. -/
def required {α : Type} (read : Json → Option α) (field : Option Json) : Option α :=
  field.bind read

/-- A field that may be left out. -/
def optional {α : Type} (default : α) (read : Json → Option α) : Option Json → Option α
  | none => some default
  | some j => read j

/-- A list of strings as a document. -/
def ofStrings (texts : List String) : Json := .array (texts.map .string)

/-- A table of strings as a document. -/
def ofTable (table : List (String × String)) : Json :=
  .object (table.map fun (key, s) => (key, Json.string s))

/-- Pairs of strings as a document. -/
def ofPairs (pairs : List (String × String)) : Json :=
  .array (pairs.map fun (key, s) => Json.array [.string key, .string s])

end RecordFix.Json
