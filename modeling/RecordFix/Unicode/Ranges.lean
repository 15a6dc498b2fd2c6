/-!
# Sets of code points

A set of code points is a list of closed intervals in ascending order. Tables write such a list as
text: hexadecimal words `gap` or `gap.length`, where `gap` leads from the end of the interval before
(from zero at first) to the start of this one, and `length` from its start to its end.
-/

namespace RecordFix.Unicode

/-- Closed intervals of code points, ascending and apart. -/
abbrev Ranges := List (Nat × Nat)

namespace Ranges

/-- Whether the code point lies in one of the intervals. -/
def contains : Ranges → Nat → Bool
  | [], _ => false
  | (lo, hi) :: rest, c => if c < lo then false else c ≤ hi || contains rest c

/-- The value of a lower-case hexadecimal digit. -/
def hexDigit (c : Char) : Nat :=
  if '0' ≤ c && c ≤ '9' then c.toNat - '0'.toNat else c.toNat - 'a'.toNat + 10

/-- A table being read: the intervals so far in reverse, the end of the last one, and the word at
hand, with the start of its interval once that is known. -/
structure Reading where
  done : Ranges := []
  last : Nat := 0
  start : Option Nat := none
  number : Nat := 0

/-- Takes the word at hand as an interval. -/
def Reading.close (r : Reading) : Reading :=
  match r.start with
  | some lo => { done := (lo, lo + r.number) :: r.done, last := lo + r.number }
  | none => { done := (r.last + r.number, r.last + r.number) :: r.done, last := r.last + r.number }

/-- Reads one more character of a table. -/
def Reading.step (r : Reading) (c : Char) : Reading :=
  if c == ' ' then r.close
  else if c == '.' then { r with start := some (r.last + r.number), number := 0 }
  else { r with number := r.number * 16 + hexDigit c }

/-- The intervals that a table writes. -/
def decode (table : String) : Ranges :=
  ((table.toList.foldl Reading.step {}).close.done).reverse

end Ranges

/-- A named set of code points: its names in loose spelling and the tables that make it up. -/
structure Property where
  names : List String
  sets : List Ranges

/-- Whether the code point has the property. -/
def Property.holds (p : Property) (c : Nat) : Bool := p.sets.any (·.contains c)

/-- The property of this name, if the list has it. -/
def Property.find? (properties : List Property) (name : String) : Option Property :=
  properties.find? fun p => p.names.contains name

end RecordFix.Unicode
