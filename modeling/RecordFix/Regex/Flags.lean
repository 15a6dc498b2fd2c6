import RecordFix.Regex.Basic

/-!
# Flags of the notation

Flags change what the notation of an expression means: whether case counts, what the line anchors
and the dot match, which repetitions are greedy, whether classes go beyond ASCII, and whether blanks
and comments may stand between the parts.
-/

namespace RecordFix.Regex

/-- The flags in force at a place of the notation. -/
structure Flags where
  ignoreCase : Bool := false
  multiLine : Bool := false
  dotAll : Bool := false
  swapGreed : Bool := false
  unicode : Bool := true
  anyLineEnd : Bool := false
  verbose : Bool := false

namespace Flags

/-- Turns the flag of a letter on or off. -/
def set? (f : Flags) (letter : Char) (on : Bool) : Option Flags :=
  match letter with
  | 'i' => some { f with ignoreCase := on }
  | 'm' => some { f with multiLine := on }
  | 's' => some { f with dotAll := on }
  | 'U' => some { f with swapGreed := on }
  | 'u' => some { f with unicode := on }
  | 'R' => some { f with anyLineEnd := on }
  | 'x' => some { f with verbose := on }
  | _ => none

/-- The set of characters that a set stands for when case may not count. -/
def foldSet (f : Flags) (s : CharSet) : CharSet :=
  if !f.ignoreCase then s else if f.unicode then s.folded else s.asciiFolded

/-- The set that a character stands for. -/
def literal (f : Flags) (c : Char) : CharSet := f.foldSet (.single c)

/-- The set that the dot stands for. Without Unicode it would match parts of characters. -/
def dot? (f : Flags) : Option CharSet :=
  if !f.unicode then none
  else if f.dotAll then some CharSet.empty.compl
  else if f.anyLineEnd then some ((CharSet.single '\n').union (.single '\r')).compl
  else some (CharSet.single '\n').compl

/-- What the start anchor asks for. -/
def startLook (f : Flags) : Look :=
  if !f.multiLine then Look.textStart
  else if f.anyLineEnd then Look.anyLineStart else Look.lineStart

/-- What the end anchor asks for. -/
def endLook (f : Flags) : Look :=
  if !f.multiLine then Look.textEnd
  else if f.anyLineEnd then Look.anyLineEnd else Look.lineEnd

end Flags

/-- Skips blanks and comments; `true` inside a comment, which ends with its line. -/
def skipBlanks : Bool → List Char → List Char
  | _, [] => []
  | true, c :: rest => skipBlanks (c != '\n') rest
  | false, c :: rest =>
    if Unicode.isBlank c then skipBlanks false rest
    else if c == '#' then skipBlanks true rest
    else c :: rest

/-- Skips blanks and comments where the flags allow them. -/
def Flags.skip (f : Flags) (text : List Char) : List Char :=
  if f.verbose then skipBlanks false text else text

/-- The flags written up to a colon or a closing parenthesis, with the rest from there on. Every
letter may occur once, and one minus sign before the letters that are turned off. -/
def readFlags (f : Flags) (seen : List Char) : List Char → Option (Flags × List Char)
  | [] => none
  | c :: rest =>
    if c = ':' ∨ c = ')' then
      if seen.head? = some '-' then none else some (f, c :: rest)
    else if seen.contains c then none
    else if c = '-' then readFlags f (c :: seen) rest
    else (f.set? c (!seen.contains '-')).bind fun f => readFlags f (c :: seen) rest

end RecordFix.Regex
