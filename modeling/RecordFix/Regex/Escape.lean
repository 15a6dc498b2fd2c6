import RecordFix.Regex.Flags
import RecordFix.Unicode.Script
import RecordFix.Text.Search
import RecordFix.Text.Integer

/-!
# Escapes of the notation

What a backslash starts: a character that would otherwise have a meaning, a character by its number,
a class of characters, or a condition on a place.
-/

namespace RecordFix.Regex

/-- What one sign of the notation stands for. A character keeps whether it was written as the number
of one byte, which without Unicode must be below 128. -/
inductive Primitive where
  | literal (c : Char) (byte : Bool)
  | class_ (set : CharSet)
  | property (set : CharSet) (negated : Bool)
  | look (holds : Look)

/-- Characters with a meaning of their own. -/
def isMeta (c : Char) : Bool :=
  ['\\', '.', '+', '*', '?', '(', ')', '|', '[', ']', '\x7b', '\x7d', '^', '$', '#', '&', '-',
    '~'].contains c

/-- Characters that may stand after a backslash for themselves: all of ASCII but letters, digits and
angle brackets. -/
def isEscapable (c : Char) : Bool :=
  isMeta c || (c.toNat < 128 && !c.isAlphanum && c != '<' && c != '>')

/-- The character with a code point, which must not be a surrogate. -/
def scalar? (n : Nat) : Option Char :=
  if n < 0xd800 || (0xe000 ≤ n && n < 0x110000) then some (Char.ofNat n) else none

/-- A fixed number of hexadecimal digits. -/
def hexFixed (f : Flags) : Nat → Nat → List Char → Option (Nat × List Char)
  | 0, value, text => some (value, text)
  | _ + 1, _, [] => none
  | count + 1, value, c :: rest =>
    (Text.hexDigit? c).bind fun d => hexFixed f count (value * 16 + d) (f.skip rest)

/-- Hexadecimal digits up to a closing brace; the fuel is the length of the text. -/
def hexBraced (f : Flags) : Nat → Nat → Bool → List Char → Option (Nat × List Char)
  | 0, _, _, _ => none
  | _ + 1, _, _, [] => none
  | fuel + 1, value, begun, c :: rest =>
    if c = '\x7d' then if begun then some (value, f.skip rest) else none
    else (Text.hexDigit? c).bind fun d =>
      hexBraced f fuel (min (value * 16 + d) 0x110000) true (f.skip rest)

/-- A character by its number, after the letter that announces it. -/
def readHex (f : Flags) (digits : Nat) (text : List Char) : Option (Primitive × List Char) :=
  match f.skip text with
  | '\x7b' :: rest =>
    (hexBraced f (rest.length + 1) 0 false (f.skip rest)).bind fun (value, rest) =>
      (scalar? value).map fun c => (.literal c false, rest)
  | rest =>
    (hexFixed f digits 0 rest).bind fun (value, rest) =>
      (scalar? value).map fun c => (.literal c (digits == 2), rest)

/-- A name in loose spelling: small ASCII letters without blanks, lines and an initial "is". -/
def looseName (name : List Char) : String :=
  let lower := name.map Char.toLower
  let isIs := lower.take 2 == ['i', 's']
  let body := (if isIs then lower.drop 2 else lower).filter fun c =>
    c.toNat < 128 && c != ' ' && c != '_' && c != '-'
  if isIs && body == ['c'] then "isc" else .ofList body

/-- The class that a single name gives: a property, a category or a script. -/
def namedClass? (name : String) : Option CharSet :=
  let general := (Unicode.Category.named? name).or (Unicode.Script.named? name)
  if name == "cf" || name == "sc" || name == "lc" then general
  else (Unicode.Binary.named? name).or general

/-- The class of the characters for which a property has a value. -/
def valueClass? (property value : String) : Option CharSet :=
  match property with
  | "gc" | "generalcategory" => Unicode.Category.named? value
  | "sc" | "script" => Unicode.Script.named? value
  | "scx" | "scriptextensions" => Unicode.Script.extension? value
  | _ => none

/-- Splits at the first occurrence of a text, which is left out. -/
def splitAround (needle text : List Char) : Option (List Char × List Char) :=
  (Text.indexOf? needle text).map fun n => (text.take n, text.drop (n + needle.length))

/-- The class between the braces, and whether an unequal sign turns it around. -/
def bracedClass? (body : List Char) : Option (CharSet × Bool) :=
  match splitAround ['!', '='] body with
  | some (name, value) => (valueClass? (looseName name) (looseName value)).map fun s => (s, true)
  | none =>
    match (splitAround [':'] body).or (splitAround ['='] body) with
    | some (name, value) => (valueClass? (looseName name) (looseName value)).map fun s => (s, false)
    | none => (namedClass? (looseName body)).map fun s => (s, false)

/-- The text up to a closing brace, without the blanks that the flags allow; the fuel is the length
of the text. -/
def braced (f : Flags) : Nat → List Char → List Char → Option (List Char × List Char)
  | 0, _, _ => none
  | _ + 1, _, [] => none
  | fuel + 1, seen, c :: rest =>
    if c = '\x7d' then some (seen.reverse, rest) else braced f fuel (c :: seen) (f.skip rest)

/-- A class by the name of a property, after the letter that announces it. -/
def readProperty (f : Flags) (negated : Bool) (text : List Char) :
    Option (Primitive × List Char) :=
  match f.skip text with
  | [] => none
  | '\x7b' :: rest =>
    (braced f (rest.length + 1) [] (f.skip rest)).bind fun (body, rest) =>
      (bracedClass? body).map fun (set, turned) => (.property set (negated != turned), rest)
  | c :: rest =>
    if c = '\\' then none
    else (namedClass? (looseName [c])).map fun set => (.property set negated, f.skip rest)

/-- Digits, spaces and word characters, without Unicode in ASCII only. -/
def shorthandClass (f : Flags) (letter : Char) : CharSet :=
  match letter with
  | 'd' => .ofRanges (if f.unicode then Unicode.decimalNumber else [(0x30, 0x39)])
  | 's' => .ofRanges (if f.unicode then Unicode.blanks else [(9, 13), (0x20, 0x20)])
  | _ => Look.wordSet f.unicode

/-- A class by its letter; the capital is the complement, which needs Unicode. -/
def shorthandPrimitive (f : Flags) (letter : Char) : Option Primitive :=
  if letter.isUpper then
    if f.unicode then some (.class_ (shorthandClass f letter.toLower).compl) else none
  else some (.class_ (shorthandClass f letter))

/-- The conditions on words that have names. -/
def namedBoundary? (f : Flags) (name : List Char) : Option Look :=
  match String.ofList name with
  | "start" => some (Look.wordStart f.unicode)
  | "end" => some (Look.wordEnd f.unicode)
  | "start-half" => some (Look.afterNoWord f.unicode)
  | "end-half" => some (Look.beforeNoWord f.unicode)
  | _ => none

/-- Whether the character may occur in the name of a condition. -/
def isBoundaryLetter (c : Char) : Bool := c.isAlpha || c == '-'

/-- The letters of a name with the blanks between them skipped. The fuel is the length of the
text. -/
def boundaryName (f : Flags) : Nat → List Char → List Char → List Char × List Char
  | 0, seen, text => (seen.reverse, text)
  | _ + 1, seen, [] => (seen.reverse, [])
  | fuel + 1, seen, c :: rest =>
    if isBoundaryLetter c then boundaryName f fuel (c :: seen) (f.skip rest)
    else (seen.reverse, c :: rest)

/-- A word boundary. A brace after it starts a name, unless it starts a repetition. -/
def readBoundary (f : Flags) (text : List Char) : Option (Primitive × List Char) :=
  let plain : Primitive := .look (Look.wordBoundary f.unicode)
  match text with
  | '\x7b' :: rest =>
    match f.skip rest with
    | [] => none
    | c :: body =>
      if !isBoundaryLetter c then some (plain, text)
      else
        match boundaryName f (body.length + 1) [] (c :: body) with
        | (name, '\x7d' :: rest) => (namedBoundary? f name).map fun look => (.look look, rest)
        | _ => none
  | _ => some (plain, text)

/-- What follows a backslash. -/
def readEscape (f : Flags) (text : List Char) : Option (Primitive × List Char) :=
  match text with
  | [] => none
  | c :: rest =>
    match c with
    | 'x' => readHex f 2 rest
    | 'u' => readHex f 4 rest
    | 'U' => readHex f 8 rest
    | 'p' => readProperty f false rest
    | 'P' => readProperty f true rest
    | 'd' | 's' | 'w' | 'D' | 'S' | 'W' => (shorthandPrimitive f c).map fun p => (p, rest)
    | 'a' => some (.literal (Char.ofNat 7) false, rest)
    | 'f' => some (.literal (Char.ofNat 12) false, rest)
    | 't' => some (.literal '\t' false, rest)
    | 'n' => some (.literal '\n' false, rest)
    | 'r' => some (.literal '\r' false, rest)
    | 'v' => some (.literal (Char.ofNat 11) false, rest)
    | 'A' => some (.look Look.textStart, rest)
    | 'z' => some (.look Look.textEnd, rest)
    | 'b' => readBoundary f rest
    | 'B' => some (.look (Look.notWordBoundary f.unicode), rest)
    | '<' => some (.look (Look.wordStart f.unicode), rest)
    | '>' => some (.look (Look.wordEnd f.unicode), rest)
    | _ => if isEscapable c then some (.literal c false, rest) else none

/-- The set that a primitive is in an expression; none for a condition or a set that would match
parts of characters. -/
def Primitive.set? (f : Flags) : Primitive → Option CharSet
  | .literal c byte => if byte && !f.unicode && 127 < c.toNat then none else some (f.literal c)
  | .class_ s => some s
  | .property set negated =>
    if !f.unicode then none
    else
      let s := f.foldSet set
      some (if negated then s.compl else s)
  | .look _ => none

end RecordFix.Regex
