import RecordFix.Regex.Basic

/-!
# Matching from a place

`Regex.ends` lists the ways in which an expression matches from a given place, the preferred way
first: alternatives from left to right, greedy repetitions longest first, lazy ones shortest first.
Of several ways that end at the same place only the preferred one is kept, since what follows cannot
tell them apart; this keeps the lists no longer than the text.
-/

namespace RecordFix

/-- A place in a text: how many characters stand before it, the last of them, and the text after. -/
structure Place where
  index : Nat
  before : Option Char
  rest : List Char

/-- The start of a text. -/
def Place.start (text : List Char) : Place := ⟨0, none, text⟩

/-- A way of matching so far: the place reached, and what the groups matched last. -/
structure Thread where
  place : Place
  groups : List (Nat × List Char) := []

namespace Thread

/-- Keeps the first thread of each place that is not among `seen`. -/
def distinctFrom (seen : List Nat) : List Thread → List Thread
  | [] => []
  | t :: rest =>
    if seen.contains t.place.index then distinctFrom seen rest
    else t :: distinctFrom (t.place.index :: seen) rest

/-- Keeps the first thread of each place. -/
def distinct : List Thread → List Thread
  | [t] => [t]
  | threads => distinctFrom [] threads

/-- Steps over one character of a set. -/
def take (set : CharSet) (t : Thread) : List Thread :=
  match t.place.rest with
  | [] => []
  | c :: rest => if set c then [{ t with place := ⟨t.place.index + 1, some c, rest⟩ }] else []

/-- Records that a group matched the text between two places. -/
def close (index : Nat) (start : Place) (t : Thread) : Thread :=
  let text := start.rest.take (t.place.index - start.index)
  { t with groups := (index, text) :: t.groups.filter (·.1 != index) }

end Thread

namespace Regex

open Thread

/-- Matches exactly `n` times. -/
def iterate (once : Thread → List Thread) : Nat → List Thread → List Thread
  | 0, threads => threads
  | n + 1, threads => iterate once n (distinct (threads.flatMap once))

/-- A search in progress: the states seen, and the threads found, the preferred first. -/
structure Trail where
  seen : List (Nat × Nat)
  found : List Thread

/-- Continues a search from each of the threads in turn. -/
def Trail.follow (visit : List (Nat × Nat) → Thread → Trail) (seen : List (Nat × Nat)) :
    List Thread → Trail
  | [] => ⟨seen, []⟩
  | t :: rest =>
    let first := visit seen t
    let others := Trail.follow visit first.seen rest
    ⟨others.seen, first.found ++ others.found⟩

/-- Up to `n` more times, each state of place and count visited once. -/
def upTo (once : Thread → List Thread) (greedy : Bool) :
    Nat → List (Nat × Nat) → Thread → Trail
  | 0, seen, t => ⟨seen, [t]⟩
  | n + 1, seen, t =>
    if seen.contains (n, t.place.index) then ⟨seen, []⟩
    else
      let deeper :=
        Trail.follow (upTo once greedy n) ((n, t.place.index) :: seen) (once t)
      ⟨deeper.seen, if greedy then deeper.found ++ [t] else t :: deeper.found⟩

/-- Any number of more times, each of them ending further on, each place visited once. The fuel is
the length of the text that is left. -/
def more (once : Thread → List Thread) (greedy : Bool) :
    Nat → List (Nat × Nat) → Thread → Trail
  | 0, seen, t => if seen.contains (0, t.place.index) then ⟨seen, []⟩ else
      ⟨(0, t.place.index) :: seen, [t]⟩
  | fuel + 1, seen, t =>
    if seen.contains (0, t.place.index) then ⟨seen, []⟩
    else
      let onward := (once t).filter fun u => t.place.index < u.place.index
      let deeper := Trail.follow (more once greedy fuel) ((0, t.place.index) :: seen) onward
      ⟨deeper.seen, if greedy then deeper.found ++ [t] else t :: deeper.found⟩

/-- At least once. A first time that takes no character is the last time. -/
def oneOrMore (once : Thread → List Thread) (greedy : Bool) (t : Thread) : List Thread :=
  let further (u : Thread) : Nat :=
    if t.place.index < u.place.index then t.place.rest.length else 0
  (Trail.follow (fun seen u => more once greedy (further u) seen u) [] (once t)).found

/-- Any number of times. -/
def zeroOrMore (once : Thread → List Thread) (greedy : Bool) (t : Thread) : List Thread :=
  if greedy then distinct (oneOrMore once greedy t ++ [t])
  else distinct (t :: oneOrMore once greedy t)

/-- From `least` to `most` times. -/
def times (once : Thread → List Thread) (greedy : Bool) (t : Thread) :
    Nat → Option Nat → List Thread
  | least, some most =>
    distinct ((iterate once least [t]).flatMap fun u =>
      (upTo once greedy (most - least) [] u).found)
  | 0, none => zeroOrMore once greedy t
  | least + 1, none => distinct ((iterate once least [t]).flatMap (oneOrMore once greedy))

/-- The ways in which the expression matches from where the thread is, the preferred way first. -/
def ends : Regex → Thread → List Thread
  | .empty, t => [t]
  | .char set, t => t.take set
  | .look holds, t => if holds t.place.before t.place.rest.head? then [t] else []
  | .cat r s, t => distinct ((ends r t).flatMap (ends s))
  | .alt r s, t => distinct (ends r t ++ ends s t)
  | .group index r, t => (ends r t).map (close index t.place)
  | .repeated r least most greedy, t => times (ends r) greedy t least most

/-- The preferred way in which the expression matches from a place. -/
def matchAt? (r : Regex) (p : Place) : Option Thread := (r.ends ⟨p, []⟩).head?

end Regex

end RecordFix
