import RecordFix.Regex.Search
import RecordFix.Text.Integer

/-!
# Replacement templates

A template is text with references to groups: `$name`, where the name is as long as possible, or the
name in braces after the dollar sign. A name that is a number means the group of that number. Two
dollar signs stand for one, and a dollar sign that starts no reference stands for itself. A
reference to a group that does not exist or took no part in the match is empty.
-/

namespace RecordFix

/-- A part of a template. -/
inductive TemplatePart where
  | char (c : Char)
  | group (number : Nat)
  | named (name : String)

/-- A replacement template. -/
abbrev Template := List TemplatePart

namespace Template

/-- The reference that a name makes. -/
def reference (name : List Char) : TemplatePart :=
  match Text.natural? name with
  | some n => .group n
  | none => .named (.ofList name)

/-- Whether the character may occur in a reference without braces. -/
def isNameChar (c : Char) : Bool := c.isAlphanum || c == '_'

/-- The reference after a dollar sign, with the rest; none if there is no reference. -/
def afterDollar (text : List Char) : Option (TemplatePart × List Char) :=
  match text with
  | '$' :: rest => some (.char '$', rest)
  | '\x7b' :: rest =>
    match rest.dropWhile (· != '\x7d') with
    | _ :: after => some (reference (rest.takeWhile (· != '\x7d')), after)
    | [] => none
  | _ =>
    let name := text.takeWhile isNameChar
    if name.isEmpty then none else some (reference name, text.dropWhile isNameChar)

/-- Reads a template. The fuel is the length of the text. -/
def read : Nat → List Char → Template
  | _, [] => []
  | 0, _ => []
  | fuel + 1, c :: rest =>
    if c = '$' then
      match afterDollar rest with
      | some (part, after) => part :: read fuel after
      | none => .char '$' :: read fuel rest
    else .char c :: read fuel rest

/-- The template that a text writes. -/
def ofChars (text : List Char) : Template := read text.length text

/-- A template with its references filled in from a match. -/
def fill (t : Template) (p : Pattern) (text : List Char) (m : Match) : List Char :=
  t.flatMap fun
    | .char c => [c]
    | .group n => (m.group? text n).getD []
    | .named name => ((p.groupNamed? name).bind (m.group? text)).getD []

/-- What stands before a character when numbers after dollar signs are put in braces. -/
inductive Seen where
  | other
  | dollar
  | number

/-- Puts the digits after each dollar sign in braces, so that a number ends where its digits end. -/
def braceNumbersAfter : Seen → List Char → List Char
  | .other, [] => []
  | .dollar, [] => ['$']
  | .number, [] => ['\x7d']
  | .other, c :: rest =>
    if c = '$' then braceNumbersAfter .dollar rest else c :: braceNumbersAfter .other rest
  | .dollar, c :: rest =>
    if Unicode.isDecimal c then '$' :: '\x7b' :: c :: braceNumbersAfter .number rest
    else if c = '$' then '$' :: braceNumbersAfter .dollar rest
    else '$' :: c :: braceNumbersAfter .other rest
  | .number, c :: rest =>
    if Unicode.isDecimal c then c :: braceNumbersAfter .number rest
    else if c = '$' then '\x7d' :: braceNumbersAfter .dollar rest
    else '\x7d' :: c :: braceNumbersAfter .other rest

/-- The template of a replacement in which a number after a dollar sign ends with its digits. -/
def ofReplacement (text : String) : Template := ofChars (braceNumbersAfter .other text.toList)

end Template

namespace Pattern

/-- The text with every match replaced by a template. -/
def replaceAll (p : Pattern) (t : Template) (s : String) : String :=
  .ofList (p.regex.replaceAll (t.fill p s.toList) s.toList)

/-- Whether the expression matches somewhere in the text. -/
def occursIn (p : Pattern) (s : String) : Bool := p.regex.occursIn s.toList

/-- The pieces of the text between matches. -/
def split (p : Pattern) (s : String) : List String := (p.regex.split s.toList).map String.ofList

end Pattern

end RecordFix
