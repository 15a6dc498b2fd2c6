import RecordFix.Regex.Matching

/-!
# Searching a text

The matches of an expression in a text, from left to right and without overlap: where the expression
matches from several places the leftmost counts. After a match the search goes on at its end, but an
empty match right at the end of a match that was not empty does not count.
-/

namespace RecordFix

/-- A match: where it starts and ends, and what the groups matched. -/
structure Match where
  start : Nat
  stop : Nat
  groups : List (Nat × List Char)

namespace Regex

/-- Where a search stands: `inside` characters still belong to the last match, and `after` says
whether a match that was not empty has just ended. -/
structure Progress where
  inside : Nat := 0
  after : Bool := false

/-- The match that starts at a place, if one counts there, and the progress one character on. -/
def searchStep (r : Regex) (now : Progress) (p : Place) : Option Match × Progress :=
  match now.inside with
  | n + 1 => (none, ⟨n, n == 0⟩)
  | 0 =>
    match r.matchAt? p with
    | none => (none, {})
    | some t =>
      match t.place.index - p.index with
      | 0 => (if now.after then none else some ⟨p.index, p.index, t.groups⟩, {})
      | n + 1 => (some ⟨p.index, t.place.index, t.groups⟩, ⟨n, n == 0⟩)

/-- The matches in the rest of a text. -/
def searchFrom (r : Regex) : Progress → Nat → Option Char → List Char → List Match
  | now, index, before, [] => (r.searchStep now ⟨index, before, []⟩).1.toList
  | now, index, before, c :: rest =>
    let (found, next) := r.searchStep now ⟨index, before, c :: rest⟩
    found.toList ++ searchFrom r next (index + 1) (some c) rest

/-- All matches in a text. -/
def search (r : Regex) (text : List Char) : List Match := r.searchFrom {} 0 none text

/-- The match that starts at a place. -/
def matchFrom? (r : Regex) (p : Place) : Option Match :=
  (r.matchAt? p).map fun t => ⟨p.index, t.place.index, t.groups⟩

/-- The leftmost match in the rest of a text. -/
def findFrom? (r : Regex) : Nat → Option Char → List Char → Option Match
  | index, before, [] => r.matchFrom? ⟨index, before, []⟩
  | index, before, c :: rest =>
    match r.matchFrom? ⟨index, before, c :: rest⟩ with
    | some m => some m
    | none => findFrom? r (index + 1) (some c) rest

/-- The leftmost match in a text. -/
def find? (r : Regex) (text : List Char) : Option Match := r.findFrom? 0 none text

/-- Whether the expression matches anywhere in a text. -/
def occursIn (r : Regex) (text : List Char) : Bool := (r.find? text).isSome

/-- The pieces of a text around matches, where `index` characters of it are gone. -/
def cutAt (index : Nat) : List Match → List Char → List (List Char)
  | [], rest => [rest]
  | m :: others, rest =>
    rest.take (m.start - index) :: cutAt m.stop others (rest.drop (m.stop - index))

/-- The pieces of a text between the matches; there is one more of them than matches. -/
def split (r : Regex) (text : List Char) : List (List Char) := cutAt 0 (r.search text) text

/-- The text with matches replaced, where `index` characters of it are gone. -/
def replaceAt (replacement : Match → List Char) (index : Nat) : List Match → List Char → List Char
  | [], rest => rest
  | m :: others, rest =>
    rest.take (m.start - index) ++ replacement m ++
      replaceAt replacement m.stop others (rest.drop (m.stop - index))

/-- The text with every match replaced. -/
def replaceAll (r : Regex) (replacement : Match → List Char) (text : List Char) : List Char :=
  replaceAt replacement 0 (r.search text) text

end Regex

/-- The text of a group in a match; group zero is the match itself. -/
def Match.group? (m : Match) (text : List Char) (index : Nat) : Option (List Char) :=
  if index = 0 then some ((text.drop m.start).take (m.stop - m.start)) else m.groups.lookup index

end RecordFix
