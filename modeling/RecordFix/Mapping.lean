import RecordFix.Json.Typed

/-!
# Lookup tables

A table associates keys with texts, in order. The entry of a certain key stands in for the keys that
the table does not have.
-/

namespace RecordFix

/-- A lookup table. -/
abbrev Mapping := Entries String

namespace Mapping

/-- The key of the entry that stands in for keys which are not in the table. -/
def defaultKey : String := "__default"

/-- The text of a key, or else of the default entry. -/
def lookup (m : Mapping) (key : String) : Option String :=
  (Entries.get? m key).or (Entries.get? m defaultKey)

/-- Sets the text of a key; nothing happens without a text. -/
def putIfPresent (m : Mapping) (key : String) (text : Option String) : Mapping :=
  match text with
  | some t => Entries.put m key t
  | none => m

/-- Sets the text of a key that exists; says whether it does. -/
def replace (m : Mapping) (key text : String) : Mapping × Bool :=
  if Entries.has m key then (Entries.put m key text, true) else (m, false)

/-- Keeps the listed keys. -/
def retain (m : Mapping) (keys : List String) : Mapping := m.filter fun e => keys.contains e.1

/-- Removes the entries without text. -/
def removeEmpty (m : Mapping) : Mapping := m.filter fun e => !e.2.isEmpty

/-- The table that an object of strings writes. -/
def ofJson? (j : Json) : Option Mapping := j.table?

/-- The table as an object of strings. -/
def toJson (m : Mapping) : Json := Json.ofTable m

end Mapping

end RecordFix
