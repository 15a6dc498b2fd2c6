import RecordFix.Unicode.Casing

/-!
# Case of a text

Upper case, lower case and a capital at the start. Lower case depends on the context in one place:
a capital sigma at the end of a word becomes the final form of the letter.
-/

namespace RecordFix.Text

/-- Every character in upper case. -/
def upcase (text : List Char) : List Char := text.flatMap Unicode.upper

/-- Whether the first character that is not passed over in case contexts has case. -/
def startsCased (text : List Char) : Bool :=
  match text.dropWhile fun c => Unicode.caseIgnorable.contains c.toNat with
  | [] => false
  | c :: _ => Unicode.cased.contains c.toNat

/-- The lower case of a character between the text before it, reversed, and the text after it. -/
def lowerBetween (before : List Char) (c : Char) (after : List Char) : List Char :=
  if c.toNat = 0x3a3 then
    [Char.ofNat (if startsCased before && !startsCased after then 0x3c2 else 0x3c3)]
  else Unicode.lower c

/-- The text in lower case after the reversed text `before`. -/
def downcaseAfter : List Char → List Char → List Char
  | _, [] => []
  | before, c :: rest => lowerBetween before c rest ++ downcaseAfter (c :: before) rest

/-- Every character in lower case. -/
def downcase (text : List Char) : List Char := downcaseAfter [] text

/-- The first character in upper case, the others as they are. -/
def capitalize : List Char → List Char
  | [] => []
  | c :: rest => Unicode.upper c ++ rest

end RecordFix.Text
