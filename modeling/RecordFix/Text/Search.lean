import RecordFix.Unicode.Character

/-!
# Cutting and searching text

Splitting at a character, trimming, and finding one text inside another.
-/

namespace RecordFix.Text

/-- The pieces of a text between the occurrences of a character; there is always at least one. -/
def splitAt (sep : Char) : List Char → List (List Char)
  | [] => [[]]
  | c :: rest =>
    if c = sep then [] :: splitAt sep rest
    else
      match splitAt sep rest with
      | [] => [[c]]
      | piece :: pieces => (c :: piece) :: pieces

theorem splitAt_ne_nil (sep : Char) (text : List Char) : splitAt sep text ≠ [] := by
  cases text with
  | nil => exact List.cons_ne_nil _ _
  | cons c rest =>
    rw [splitAt]
    split
    · exact List.cons_ne_nil _ _
    · split <;> exact List.cons_ne_nil _ _

theorem splitAt_of_notMem {sep : Char} {text : List Char} (h : sep ∉ text) :
    splitAt sep text = [text] := by
  induction text with
  | nil => rfl
  | cons c rest ih =>
    have hc : c ≠ sep := fun hc => h (hc ▸ List.mem_cons_self)
    rw [splitAt, if_neg hc, ih (List.not_mem_of_not_mem_cons h)]

/-- Splits at the first occurrence of a character, which is left out. -/
def splitOnce (sep : Char) : List Char → Option (List Char × List Char)
  | [] => none
  | c :: rest =>
    if c = sep then some ([], rest)
    else (splitOnce sep rest).map fun (before, after) => (c :: before, after)

/-- The text without the blanks at its start. -/
def trimStart (text : List Char) : List Char := text.dropWhile Unicode.isBlank

/-- The text without the blanks at either end. -/
def trim (text : List Char) : List Char := (trimStart (trimStart text).reverse).reverse

/-- How many characters stand before the first occurrence of `needle`. -/
def indexOf? (needle : List Char) : List Char → Option Nat
  | [] => if needle.isEmpty then some 0 else none
  | c :: rest =>
    if needle.isPrefixOf (c :: rest) then some 0 else (indexOf? needle rest).map (· + 1)

/-- Whether `needle` occurs in the text. -/
def occursIn (needle text : List Char) : Bool := (indexOf? needle text).isSome

/-- Whether two texts are equal up to the case of the letters a to z. -/
def sameLetters (a b : String) : Bool := a.toList.map Char.toLower == b.toList.map Char.toLower

end RecordFix.Text

namespace RecordFix

/-- The text without the blanks at either end. -/
def trimBlanks (s : String) : String := .ofList (Text.trim s.toList)

end RecordFix
