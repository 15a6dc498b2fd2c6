import RecordFix.Entries
import RecordFix.Glob

/-!
# Field patterns kept for reuse

A cache reads each pattern once. What it holds has no bearing on what patterns mean, so a copy may
start empty and all caches count as equal.
-/

namespace RecordFix

/-- Patterns by the text that writes them. -/
structure PatternCache where
  patterns : Entries FieldPattern := []

namespace PatternCache

/-- How many patterns have been read. -/
def size (c : PatternCache) : Nat := c.patterns.length

/-- The pattern that a text writes, and the cache that holds it. -/
def get (c : PatternCache) (text : String) : FieldPattern × PatternCache :=
  match Entries.get? c.patterns text with
  | some p => (p, c)
  | none =>
    let p := FieldPattern.ofString text
    (p, ⟨Entries.put c.patterns text p⟩)

/-- A copy starts empty. -/
def copy (_ : PatternCache) : PatternCache := {}

/-- All caches count as equal. -/
def same (_ _ : PatternCache) : Bool := true

/-- A short description. -/
def text (c : PatternCache) : String := "PatternCache(" ++ toString c.size ++ ")"

end PatternCache

end RecordFix
