import RecordFix.Unicode.Casing
import RecordFix.Unicode.Character

/-!
# Regular expressions

The expressions proper, without the notation they are written in. A condition on the two characters
around a place is a function. Flags and non-capturing groups have done their work once an expression
is read and do not occur here.
-/

namespace RecordFix

namespace CharSet

/-- The characters that differ from a member in case only. -/
def folded (s : CharSet) : CharSet := s.closeUnder Unicode.caseClasses

/-- The characters that differ from a member only in the case of the letters a to z. -/
def asciiFolded (s : CharSet) : CharSet := s.closeUnder Unicode.asciiCaseClasses

/-- The letters a to z in both cases, and the digits. -/
def asciiAlphanum : CharSet := .ofRanges [(0x30, 0x39), (0x41, 0x5a), (0x61, 0x7a)]

end CharSet

/-- A condition on the characters before and after a place in a text. -/
abbrev Look := Option Char → Option Char → Bool

/-- A regular expression. Groups are numbered from one; `repeated r least most greedy` is from
`least` to `most` times `r`, as often as possible if `greedy` and as rarely as possible if not. -/
inductive Regex where
  | empty
  | char (set : CharSet)
  | look (holds : Look)
  | cat (r s : Regex)
  | alt (r s : Regex)
  | group (index : Nat) (r : Regex)
  | repeated (r : Regex) (least : Nat) (most : Option Nat) (greedy : Bool)

namespace Look

/-- The start of the text. -/
def textStart : Look := fun before _ => before.isNone

/-- The end of the text. -/
def textEnd : Look := fun _ after => after.isNone

/-- The start of a line; lines end in a line feed. -/
def lineStart : Look := fun before _ => before.isNone || before == some '\n'

/-- The end of a line; lines end in a line feed. -/
def lineEnd : Look := fun _ after => after.isNone || after == some '\n'

/-- The start of a line; lines end in a line feed, a carriage return or both. -/
def anyLineStart : Look := fun before after =>
  before.isNone || before == some '\n' || (before == some '\r' && after != some '\n')

/-- The end of a line; lines end in a line feed, a carriage return or both. -/
def anyLineEnd : Look := fun before after =>
  after.isNone || after == some '\r' || (after == some '\n' && before != some '\r')

/-- The letters of words: of any script, or a to z, digits and the underscore. -/
def wordSet (unicode : Bool) : CharSet :=
  if unicode then Unicode.word else .union .asciiAlphanum (.single '_')

/-- Whether there is a character and it belongs to a word. -/
def inWord (unicode : Bool) (c : Option Char) : Bool := (c.map (wordSet unicode)).getD false

/-- Between a word and what is not a word. -/
def wordBoundary (unicode : Bool) : Look := fun before after =>
  inWord unicode before != inWord unicode after

/-- Inside a word, or outside words. -/
def notWordBoundary (unicode : Bool) : Look := fun before after =>
  inWord unicode before == inWord unicode after

/-- The start of a word. -/
def wordStart (unicode : Bool) : Look := fun before after =>
  !inWord unicode before && inWord unicode after

/-- The end of a word. -/
def wordEnd (unicode : Bool) : Look := fun before after =>
  inWord unicode before && !inWord unicode after

/-- No word before the place. -/
def afterNoWord (unicode : Bool) : Look := fun before _ => !inWord unicode before

/-- No word after the place. -/
def beforeNoWord (unicode : Bool) : Look := fun _ after => !inWord unicode after

end Look

/-- An expression ready for use: the expression and the names of its groups, from the first on. -/
structure Pattern where
  regex : Regex
  names : List (Option String)

/-- The number of the group of this name. -/
def Pattern.groupNamed? (p : Pattern) (name : String) : Option Nat :=
  (p.names.findIdx? (· == some name)).map (· + 1)

/-- The names of the named groups in order. -/
def Pattern.groupNames (p : Pattern) : List String := p.names.filterMap id

end RecordFix
