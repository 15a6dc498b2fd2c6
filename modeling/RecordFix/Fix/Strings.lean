import RecordFix.Fix.Arguments
import RecordFix.Regex.Template
import RecordFix.Text.Case
import RecordFix.Value.Basic

/-!
# Functions on strings

What the functions on strings make of a string.
-/

namespace RecordFix

namespace Strings

/-- A function on text as a function on strings. -/
def onText (f : List Char → List Char) (s : String) : String := .ofList (f s.toList)

/-- The characters from `start` on that stand before the one ahead of `stop`; what lies outside the
string is left out. -/
def substring (start stop : Int) (s : String) : String :=
  onText (fun text => (text.drop start.toNat).take ((stop - 1).toNat - start.toNat)) s

/-- How many characters stand before the first occurrence of another string, or -1. -/
def index (needle s : String) : Int :=
  match Text.indexOf? needle.toList s.toList with
  | some n => n
  | none => -1

/-- The groups of the leftmost match: by name if there are names, and else those that took part. A
string without a match stays as it is. -/
def parse (p : Pattern) (s : String) : Value :=
  let text := s.toList
  match p.regex.find? text with
  | none => .string s
  | some m =>
    let group (n : Nat) : Option Value := (m.group? text n).map fun t => .string (.ofList t)
    if p.groupNames.isEmpty then
      .array ((List.range p.names.length).filterMap fun n => group (n + 1))
    else
      .hash (Entries.ofList (p.groupNames.filterMap fun name =>
        ((p.groupNamed? name).bind group).map (name, ·)))

mutual

/-- A value with every string cut at the matches of a pattern. The pieces of a string are an array;
an array takes in the pieces of its items. -/
def split (p : Pattern) : Value → Value
  | .string s => .ofStrings (p.split s)
  | .array items => .array (splitItems p items)
  | .hash fields => .hash (splitFields p fields)

/-- The pieces of items in one list. -/
def splitItems (p : Pattern) : List Value → List Value
  | [] => []
  | v :: rest => (split p v).toList ++ splitItems p rest

/-- The pieces of the values of fields. -/
def splitFields (p : Pattern) : List (String × Value) → List (String × Value)
  | [] => []
  | (name, v) :: rest => (name, split p v) :: splitFields p rest

end

mutual

/-- A value with the names of fields changed at every depth. -/
def rename (f : String → String) : Value → Value
  | .string s => .string s
  | .array items => .array (renameItems f items)
  | .hash fields => .hash (Entries.ofList (renameFields f fields))

/-- Items with the names of fields changed. -/
def renameItems (f : String → String) : List Value → List Value
  | [] => []
  | v :: rest => rename f v :: renameItems f rest

/-- Fields with their names changed, and the names inside them. -/
def renameFields (f : String → String) : List (String × Value) → List (String × Value)
  | [] => []
  | (name, v) :: rest => (f name, rename f v) :: renameFields f rest

end

/-- The fields of a hash renamed; where two get the same name the later one replaces the earlier. -/
def renameHash (f : String → String) (fields : Hash) : Hash :=
  Entries.ofList (renameFields f fields)

end Strings

end RecordFix
