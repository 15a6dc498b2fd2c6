import RecordFix.Json.Basic

/-!
# JSON text

The compact form of a value has no blanks. The indented form puts every item and member on a line of
its own, two blanks deeper than its container; empty arrays and objects stay on one line.
-/

namespace RecordFix.Json

/-- A hexadecimal digit. -/
def hexDigit (n : Nat) : Char := Char.ofNat (if n < 10 then 48 + n else 87 + n)

/-- A character inside a string: quotes, backslashes and control characters are escaped. -/
def escape (c : Char) : List Char :=
  if c = '"' then ['\\', '"']
  else if c = '\\' then ['\\', '\\']
  else if c = '\n' then ['\\', 'n']
  else if c = '\r' then ['\\', 'r']
  else if c = '\t' then ['\\', 't']
  else if c.toNat = 8 then ['\\', 'b']
  else if c.toNat = 12 then ['\\', 'f']
  else if c.toNat < 0x20 then
    ['\\', 'u', '0', '0', hexDigit (c.toNat / 16), hexDigit (c.toNat % 16)]
  else [c]

/-- A string in quotes. -/
def quote (s : String) : List Char := '"' :: (s.toList.flatMap escape ++ ['"'])

/-- Pieces of text with a comma between them. -/
def commas : List (List Char) → List Char
  | [] => []
  | [piece] => piece
  | piece :: rest => piece ++ ',' :: commas rest

mutual

/-- The compact text of a value. -/
def write : Json → List Char
  | .null => ['n', 'u', 'l', 'l']
  | .bool true => ['t', 'r', 'u', 'e']
  | .bool false => ['f', 'a', 'l', 's', 'e']
  | .number n => n.text
  | .string s => quote s
  | .array items => '[' :: (commas (writeItems items) ++ [']'])
  | .object members => '\x7b' :: (commas (writeMembers members) ++ ['\x7d'])

/-- The compact texts of the items of an array. -/
def writeItems : List Json → List (List Char)
  | [] => []
  | item :: rest => write item :: writeItems rest

/-- The compact texts of the members of an object. -/
def writeMembers : List (String × Json) → List (List Char)
  | [] => []
  | (key, value) :: rest => (quote key ++ ':' :: write value) :: writeMembers rest

end

/-- The compact text of a value. -/
def compact (value : Json) : String := .ofList value.write

/-- A new line at a depth of nesting. -/
def newLine (depth : Nat) : List Char := '\n' :: List.replicate (2 * depth) ' '

/-- Pieces of text, each on a line of its own at `depth + 1`, between two brackets. -/
def block (depth : Nat) (opening closing : Char) (pieces : List (List Char)) : List Char :=
  if pieces.isEmpty then [opening, closing]
  else opening :: (commas (pieces.map (newLine (depth + 1) ++ ·)) ++ newLine depth ++ [closing])

mutual

/-- The indented text of a value at a depth of nesting. -/
def writeIndented (depth : Nat) : Json → List Char
  | .array items => block depth '[' ']' (writeIndentedItems (depth + 1) items)
  | .object members => block depth '\x7b' '\x7d' (writeIndentedMembers (depth + 1) members)
  | .null => ['n', 'u', 'l', 'l']
  | .bool true => ['t', 'r', 'u', 'e']
  | .bool false => ['f', 'a', 'l', 's', 'e']
  | .number n => n.text
  | .string s => quote s

/-- The indented texts of the items of an array. -/
def writeIndentedItems (depth : Nat) : List Json → List (List Char)
  | [] => []
  | item :: rest => writeIndented depth item :: writeIndentedItems depth rest

/-- The indented texts of the members of an object. -/
def writeIndentedMembers (depth : Nat) : List (String × Json) → List (List Char)
  | [] => []
  | (key, value) :: rest =>
    (quote key ++ ':' :: ' ' :: writeIndented depth value) :: writeIndentedMembers depth rest

end

/-- The indented text of a value. -/
def indented (value : Json) : String := .ofList (writeIndented 0 value)

end RecordFix.Json
