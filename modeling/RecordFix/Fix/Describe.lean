import RecordFix.Fix.Extension
import RecordFix.Unicode.Character

/-!
# Describing a session

A session and the extensions that are registered in it on one line, for those who look for a
mistake. Texts are in quotes; what has no order of its own is sorted by name.
-/

namespace RecordFix

namespace Describe

/-- A character by its code point in hexadecimal. -/
def numbered (c : Char) : List Char :=
  ['\\', 'u', '\x7b'] ++ Nat.toDigits 16 c.toNat ++ ['\x7d']

/-- A character of a text in quotes. -/
def escape (c : Char) : List Char :=
  if c = '"' || c = '\\' then ['\\', c]
  else if c = '\n' then ['\\', 'n']
  else if c = '\r' then ['\\', 'r']
  else if c = '\t' then ['\\', 't']
  else if c.toNat = 0 then ['\\', '0']
  else if Unicode.isShown c then [c]
  else numbered c

/-- A text in quotes. -/
def quoted (s : String) : String := "\"" ++ .ofList (s.toList.flatMap escape) ++ "\""

/-- Texts between brackets. -/
def listed (texts : List String) : String :=
  "[" ++ ", ".intercalate (texts.map quoted) ++ "]"

/-- Names with texts between braces. -/
def table (entries : Entries String) : String :=
  "\x7b" ++ ", ".intercalate (entries.map fun (k, t) => quoted k ++ ": " ++ quoted t) ++ "\x7d"

/-- A text that may be absent. -/
def possible : Option String → String
  | none => "None"
  | some s => "Some(" ++ quoted s ++ ")"

/-- A structure with the descriptions of its fields. -/
def structured (name : String) (fields : List (String × String)) : String :=
  name ++ " \x7b " ++ ", ".intercalate (fields.map fun (n, t) => n ++ ": " ++ t) ++ " \x7d"

/-- Names in ascending order. -/
def ordered (names : List String) : List String := names.mergeSort fun a b => a ≤ b

end Describe

namespace Extensions

open Describe

/-- The description of a session and the extensions that are registered in it. -/
def describe (e : Extensions) (s : Session) : String :=
  structured "FixContext"
    [("vars", table s.vars),
      ("maps", structured "MapRegistry" [("maps", listed s.maps.sortedNames)]),
      ("base_dir", possible s.baseDir),
      ("functions", listed (ordered (Entries.names (e.inSession s).functions))),
      ("predicates", listed (ordered (Entries.names (e.inSession s).predicates)))]

end Extensions

end RecordFix
