import RecordFix.Regex.Basic

/-!
# Size of an expression

An expression must not become larger than `maxSize` when it is written out as states that each take
one byte of UTF-8, with a repetition as the copies of its part that it allows. A state takes
thirty-two units, one of several ways on from a state four, and a range of ASCII characters eight.
-/

namespace RecordFix

namespace CharSet

/-- A run of numbers with so many digits to base sixty-four after the first one, as sequences of
ranges of digits. -/
def digitRanges : Nat → Nat → Nat → List (List (Nat × Nat))
  | 0, lo, hi => [[(lo, hi)]]
  | more + 1, lo, hi =>
    let unit := Nat.pow 64 (more + 1)
    let first := lo / unit
    let last := hi / unit
    let led (digit : Nat) (lo hi : Nat) := (digitRanges more lo hi).map ((digit, digit) :: ·)
    if first = last then led first (lo % unit) (hi % unit)
    else
      let low := if lo % unit = 0 then [] else led first (lo % unit) (unit - 1)
      let high := if hi % unit = unit - 1 then [] else led last 0 (hi % unit)
      let start := if lo % unit = 0 then first else first + 1
      let stop := if hi % unit = unit - 1 then last + 1 else last
      let middle := if start < stop then
          [(start, stop - 1) :: List.replicate (more + 1) (0, 63)] else []
      low ++ middle ++ high

/-- The code points that are written in one, two, three and four bytes, with the number of bytes
after the first one. Surrogates are not written. -/
def byteLengths : List (Nat × Nat × Nat) :=
  [(0, 0x7f, 0), (0x80, 0x7ff, 1), (0x800, 0xd7ff, 2), (0xe000, 0xffff, 2), (0x10000, 0x10ffff, 3)]

/-- A run of code points as sequences of ranges of bytes. -/
def byteRanges (run : Nat × Nat) : List (List (Nat × Nat)) :=
  byteLengths.flatMap fun (least, most, more) =>
    let lo := max run.1 least
    let hi := min run.2 most
    if lo ≤ hi then digitRanges more lo hi else []

/-- How many ranges a sequence adds to the one before it, whose beginning it shares. -/
def added (before sequence : List (Nat × Nat)) : Nat :=
  if before.length = sequence.length then
    ((before.zip sequence).dropWhile fun (x, y) => x == y).length
  else sequence.length

/-- The number of states for sequences of ranges in order. -/
def states : List (Nat × Nat) → List (List (Nat × Nat)) → Nat
  | _, [] => 0
  | before, sequence :: rest => added before sequence + states sequence rest

/-- The size of a choice between sequences of ranges. A set of ASCII characters is one state with a
way on for each range. -/
def sequencesSize (sequences : List (List (Nat × Nat))) : Nat :=
  if sequences.all (·.length == 1) then 64 + 8 * sequences.length
  else 64 + 4 * sequences.length + 32 * states [] sequences

/-- The size of a set of characters. A single character is as large as its bytes. -/
def size (set : CharSet) : Nat :=
  match set.ranges.flatMap byteRanges with
  | [] => 32
  | [sequence] =>
    if sequence.all fun (lo, hi) => lo == hi then 32 * sequence.length
    else sequencesSize [sequence]
  | sequences => sequencesSize sequences

end CharSet

namespace Regex

/-- Whether the expression can match the empty text only. -/
def takesNothing : Regex → Bool
  | .empty | .look _ => true
  | .char _ => false
  | .cat r s | .alt r s => r.takesNothing && s.takesNothing
  | .group _ r => r.takesNothing
  | .repeated r _ _ _ => r.takesNothing

/-- What a branch of a choice adds to its size, given the size of the branch by itself. A choice in
a choice is no branch of its own, but has its branches among the others. -/
def branchSize (branch : Regex) (size : Nat) : Nat :=
  match branch with
  | .alt _ _ => size - 64
  | _ => size + 4

/-- The size of an expression with all copies written out. -/
def size : Regex → Nat
  | .empty | .look _ => 32
  | .char set => set.size
  | .cat r s => r.size + s.size
  | .alt r s => 64 + branchSize r r.size + branchSize s s.size
  | .group _ r => r.size + 64
  | .repeated r least none _ => max 1 least * r.size + 40
  | .repeated r least (some most) _ =>
    if least = most then most * r.size else most * r.size + (most - least) * 40 + 32

/-- The largest size that an expression may have. -/
def maxSize : Nat := 10485760

/-- Whether an expression is small enough. -/
def fits (r : Regex) : Bool := r.size ≤ maxSize

end Regex

end RecordFix
