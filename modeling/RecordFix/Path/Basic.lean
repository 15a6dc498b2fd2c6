import RecordFix.Error
import RecordFix.Text.Integer
import RecordFix.Text.Search

/-!
# Paths

A path leads from a record to values in it. Its segments stand between dots. A segment names fields
of a hash; on an array some segments mean positions, and the others lead on to every item.
-/

namespace RecordFix

/-- The segments of a path. -/
abbrev Path := List String

namespace Path

/-- The path that a text writes. -/
def ofString (s : String) : Path := (Text.splitAt '.' s.toList).map String.ofList

/-- A text without dots is one segment. -/
theorem ofString_of_notMem {s : String} (h : '.' ∉ s.toList) : ofString s = [s] := by
  rw [ofString, Text.splitAt_of_notMem h, List.map_singleton, String.ofList_toList]

theorem ofString_ne_nil (s : String) : ofString s ≠ [] :=
  fun h => Text.splitAt_ne_nil '.' s.toList (List.map_eq_nil_iff.mp h)

/-- The text of a path. -/
def text (p : Path) : String := ".".intercalate p

/-- The first segment. -/
def head (p : Path) : String := p.headD ""

/-- The segment for a new place at the end of an array. -/
def appendSegment : String := "$append"

/-- A place in an array: the first item, the last, or the item of this number, counted from one. -/
inductive Position where
  | first
  | last
  | number (n : Nat)
  deriving DecidableEq, Repr

/-- The index of a position in an array of this length; none if there is no such item. -/
def Position.index? (p : Position) (length : Nat) : Option Nat :=
  match p with
  | .first => if length = 0 then none else some 0
  | .last => if length = 0 then none else some (length - 1)
  | .number 0 => none
  | .number (n + 1) => if n < length then some n else none

/-- What a segment means on an array: a new place at the end, every item, the item at a position, or
a field of the items. -/
inductive Step where
  | append
  | all
  | position (p : Position)
  | field
  deriving DecidableEq, Repr

/-- The number of an item; none if the text is not written in digits alone or is out of range. -/
def number? (segment : String) : Option Nat :=
  let digits := segment.toList
  if digits.all Char.isDigit then Text.natural? digits else none

/-- The meaning of a segment on an array. -/
def Step.ofSegment (segment : String) : Step :=
  if segment = appendSegment then .append
  else if segment = "$first" then .position .first
  else if segment = "$last" then .position .last
  else if segment = "*" then .all
  else
    match number? segment with
    | some n => .position (.number n)
    | none => .field

end Path

end RecordFix
