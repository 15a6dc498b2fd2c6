import RecordFix.Unicode.Ranges

/-!
# Sets of characters

A set of characters is kept as intervals of code points that ascend with a gap between any two, so
that its complement consists of the gaps and its size does not depend on how it came about. The code
points between the characters, the surrogates, may be in a set or not.
-/

namespace RecordFix

namespace Unicode.Ranges

variable {rs : Ranges} {start lo hi n : Nat}

/-- The intervals ascend from `start` on, with a gap between any two. -/
def Ascend : Nat → Ranges → Prop
  | _, [] => True
  | start, (lo, hi) :: rest => start ≤ lo ∧ lo ≤ hi ∧ Ascend (hi + 2) rest

theorem Ascend.mono {less : Nat} (hle : less ≤ start) (h : Ascend start rs) : Ascend less rs := by
  cases rs with
  | nil => trivial
  | cons _ _ => exact ⟨Nat.le_trans hle h.1, h.2⟩

theorem le_of_contains (h : Ascend start rs) (hn : contains rs n = true) : start ≤ n := by
  cases rs with
  | nil => exact absurd hn Bool.false_ne_true
  | cons r rest =>
    refine Nat.le_trans h.1 (Nat.le_of_not_lt fun hlt => ?_)
    rw [contains, if_pos hlt] at hn
    exact absurd hn Bool.false_ne_true

theorem contains_cons (h : Ascend start ((lo, hi) :: rs)) :
    contains ((lo, hi) :: rs) n = true ↔ (lo ≤ n ∧ n ≤ hi) ∨ contains rs n = true := by
  have hrest : contains rs n = true → hi + 2 ≤ n := le_of_contains h.2.2
  have hle : lo ≤ hi := h.2.1
  rw [contains]
  split
  · next hlt =>
    simp only [Bool.false_eq_true, false_iff]
    rintro (⟨hge, -⟩ | hmem)
    · omega
    · have := hrest hmem
      omega
  · next hge =>
    rw [Bool.or_eq_true, decide_eq_true_iff, and_iff_right (Nat.le_of_not_lt hge)]

theorem contains_iff (h : Ascend start rs) :
    contains rs n = true ↔ ∃ r ∈ rs, r.1 ≤ n ∧ n ≤ r.2 := by
  induction rs generalizing start with
  | nil => simp [contains]
  | cons r rest ih =>
    simp only [List.mem_cons, exists_eq_or_imp]
    rw [contains_cons h, ih h.2.2]

/-- Adds an interval and joins it with those that it meets. -/
def insert : Nat → Nat → Ranges → Ranges
  | lo, hi, [] => [(lo, hi)]
  | lo, hi, (first, last) :: rest =>
    if hi + 1 < first then (lo, hi) :: (first, last) :: rest
    else if last + 1 < lo then (first, last) :: insert lo hi rest
    else insert (min lo first) (max hi last) rest

theorem ascend_insert (h : Ascend start rs) (hstart : start ≤ lo) (hle : lo ≤ hi) :
    Ascend start (insert lo hi rs) := by
  induction rs generalizing start lo hi with
  | nil => exact ⟨hstart, hle, trivial⟩
  | cons r rest ih =>
    obtain ⟨hfirst, hlast, hrest⟩ := h
    unfold insert
    split
    · exact ⟨hstart, hle, by omega, hlast, hrest⟩
    · split
      · exact ⟨hfirst, hlast, ih hrest (by omega) hle⟩
      · exact ih (hrest.mono (by omega)) (by omega) (by omega)

theorem contains_insert (h : Ascend start rs) (hle : lo ≤ hi) :
    contains (insert lo hi rs) n = true ↔ (lo ≤ n ∧ n ≤ hi) ∨ contains rs n = true := by
  induction rs generalizing start lo hi with
  | nil => exact contains_cons ⟨Nat.le_refl lo, hle, trivial⟩
  | cons r rest ih =>
    obtain ⟨first, last⟩ := r
    have hins := ascend_insert (h.mono (Nat.zero_le start)) (Nat.zero_le lo) hle
    unfold insert at hins ⊢
    split
    · next hgap =>
      rw [if_pos hgap] at hins
      exact contains_cons hins
    · next hnear =>
      rw [if_neg hnear] at hins
      split
      · next hgap =>
        rw [if_pos hgap] at hins
        rw [contains_cons hins, ih h.2.2 hle, contains_cons h, or_left_comm]
      · -- the two intervals meet, so what they cover is one interval
        have hjoin : (min lo first ≤ n ∧ n ≤ max hi last) ↔
            (lo ≤ n ∧ n ≤ hi) ∨ (first ≤ n ∧ n ≤ last) := by
          have := h.2.1
          omega
        rw [ih h.2.2 (by omega), contains_cons h, hjoin, or_assoc]

/-- The last code point. -/
def lastPoint : Nat := 0x10ffff

/-- What lies between the intervals from `start` on. -/
def gaps : Nat → Ranges → Ranges
  | start, [] => if start ≤ lastPoint then [(start, lastPoint)] else []
  | start, (lo, hi) :: rest =>
    if start < lo then (start, lo - 1) :: gaps (hi + 1) rest else gaps (hi + 1) rest

theorem ascend_gaps (h : Ascend start rs) : Ascend start (gaps start rs) := by
  induction rs generalizing start with
  | nil =>
    unfold gaps
    split
    · next hle => exact ⟨Nat.le_refl _, hle, trivial⟩
    · trivial
  | cons r rest ih =>
    obtain ⟨hfirst, hlast, hrest⟩ := h
    have hgaps := ih (hrest.mono (Nat.le_succ (r.2 + 1)))
    unfold gaps
    split
    · exact ⟨Nat.le_refl _, by omega, hgaps.mono (by omega)⟩
    · exact hgaps.mono (by omega)

theorem contains_gaps (h : Ascend start rs) (hstart : start ≤ n) (hn : n ≤ lastPoint) :
    contains (gaps start rs) n = true ↔ ¬ contains rs n = true := by
  induction rs generalizing start with
  | nil =>
    rw [gaps, if_pos (Nat.le_trans hstart hn)]
    simp [contains, hstart, hn]
  | cons r rest ih =>
    obtain ⟨lo, hi⟩ := r
    have hbounds : start ≤ lo ∧ lo ≤ hi := ⟨h.1, h.2.1⟩
    have hpast : Ascend (hi + 1) rest := h.2.2.mono (Nat.le_succ _)
    have hgaps := ascend_gaps h
    rw [contains_cons h, not_or]
    -- the first gap ends at `lo - 1`, the others begin after `hi`
    have hfirst : contains (gaps start ((lo, hi) :: rest)) n = true ↔
        n < lo ∨ contains (gaps (hi + 1) rest) n = true := by
      rw [gaps] at hgaps ⊢
      split
      · next hlt =>
        rw [if_pos hlt] at hgaps
        rw [contains_cons hgaps]
        exact or_congr_left (by omega)
      · next hge => exact (or_iff_right (by omega)).symm
    rw [hfirst]
    rcases Nat.lt_or_ge hi n with hlt | hle
    · rw [ih hpast hlt]
      constructor
      · rintro (hbelow | hnot)
        · omega
        · exact ⟨by omega, hnot⟩
      · exact fun hboth => .inr hboth.2
    · have hlater : ¬ contains (gaps (hi + 1) rest) n = true := fun hmem =>
        Nat.not_lt.mpr hle (le_of_contains (ascend_gaps hpast) hmem)
      have hout : ¬ contains rest n = true := fun hmem =>
        Nat.not_lt.mpr hle (le_of_contains hpast hmem)
      rw [or_iff_left hlater, and_iff_left hout]
      omega

end Unicode.Ranges

open Unicode (Ranges)

/-- A set of characters by its intervals of code points. -/
structure CharSet where
  ranges : Ranges
  ascend : ranges.Ascend 0

namespace CharSet

/-- Whether the set holds the code point. -/
def holdsPoint (s : CharSet) (n : Nat) : Bool := s.ranges.contains n

/-- Whether the set holds the character. -/
def holds (s : CharSet) (c : Char) : Bool := s.holdsPoint c.toNat

instance : CoeFun CharSet fun _ => Char → Bool := ⟨holds⟩

/-- No character. -/
def empty : CharSet := ⟨[], trivial⟩

/-- The set with the code points from `lo` to `hi` added. -/
def insert (s : CharSet) (lo hi : Nat) : CharSet :=
  if h : lo ≤ hi then ⟨s.ranges.insert lo hi, Ranges.ascend_insert s.ascend (Nat.zero_le lo) h⟩
  else s

/-- The set with the code points of some intervals added. -/
def insertAll (s : CharSet) (rs : Ranges) : CharSet := rs.foldr (fun r t => t.insert r.1 r.2) s

/-- The characters whose code points are in one of the intervals. -/
def ofRanges (rs : Ranges) : CharSet := empty.insertAll rs

/-- The characters from `lo` to `hi`. -/
def range (lo hi : Char) : CharSet := empty.insert lo.toNat hi.toNat

/-- One character. -/
def single (c : Char) : CharSet := range c c

/-- The characters of either set. -/
def union (s t : CharSet) : CharSet := s.insertAll t.ranges

/-- The characters that are not in the set. -/
def compl (s : CharSet) : CharSet := ⟨s.ranges.gaps 0, Ranges.ascend_gaps s.ascend⟩

/-- The characters of both sets. -/
def inter (s t : CharSet) : CharSet := (s.compl.union t.compl).compl

/-- The characters of the first set that are not in the second. -/
def diff (s t : CharSet) : CharSet := s.inter t.compl

/-- The characters of exactly one of the sets. -/
def symmDiff (s t : CharSet) : CharSet := (s.diff t).union (t.diff s)

/-- The set with every class of code points added that it has a member of. -/
def closeUnder (classes : List (List Nat)) (s : CharSet) : CharSet :=
  (classes.filter fun points => points.any s.holdsPoint).flatten.foldr (fun n t => t.insert n n) s

theorem holdsPoint_insert (s : CharSet) (lo hi n : Nat) :
    (s.insert lo hi).holdsPoint n = true ↔ (lo ≤ n ∧ n ≤ hi) ∨ s.holdsPoint n = true := by
  unfold insert
  split
  · next hle => exact Ranges.contains_insert s.ascend hle
  · next hnot => exact (or_iff_right fun h => hnot (Nat.le_trans h.1 h.2)).symm

theorem holdsPoint_insertAll (s : CharSet) (rs : Ranges) (n : Nat) :
    (s.insertAll rs).holdsPoint n = true ↔
      (∃ r ∈ rs, r.1 ≤ n ∧ n ≤ r.2) ∨ s.holdsPoint n = true := by
  induction rs with
  | nil => simp [insertAll]
  | cons r rest ih =>
    have hcons : s.insertAll (r :: rest) = (s.insertAll rest).insert r.1 r.2 := rfl
    simp only [List.mem_cons, exists_eq_or_imp]
    rw [hcons, holdsPoint_insert, ih, or_assoc]

@[simp] theorem empty_apply (c : Char) : empty c = false := rfl

@[simp] theorem range_apply (lo hi c : Char) : range lo hi c = decide (lo ≤ c ∧ c ≤ hi) := by
  rw [Bool.eq_iff_iff, decide_eq_true_iff]
  exact (holdsPoint_insert empty lo.toNat hi.toNat c.toNat).trans (or_iff_left Bool.false_ne_true)

@[simp] theorem single_apply (c d : Char) : single c d = (d == c) := by
  rw [single, range_apply, Bool.eq_iff_iff, decide_eq_true_iff, beq_iff_eq]
  constructor
  · rintro ⟨hle, hge⟩
    exact Char.le_antisymm hge hle
  · rintro rfl
    exact ⟨Char.le_refl d, Char.le_refl d⟩

@[simp] theorem union_apply (s t : CharSet) (c : Char) : s.union t c = (s c || t c) := by
  rw [Bool.eq_iff_iff, Bool.or_eq_true]
  refine (holdsPoint_insertAll s t.ranges c.toNat).trans ?_
  rw [← Ranges.contains_iff t.ascend]
  exact or_comm

theorem toNat_le_lastPoint (c : Char) : c.toNat ≤ Ranges.lastPoint := by
  rcases c.valid with hlow | ⟨-, hhigh⟩
  · exact Nat.le_trans (Nat.le_of_lt hlow) (by decide)
  · exact Nat.le_of_lt_succ hhigh

@[simp] theorem compl_apply (s : CharSet) (c : Char) : s.compl c = !s c := by
  rw [Bool.eq_iff_iff, Bool.not_eq_true', ← Bool.not_eq_true]
  exact Ranges.contains_gaps s.ascend (Nat.zero_le _) (toNat_le_lastPoint c)

@[simp] theorem inter_apply (s t : CharSet) (c : Char) : s.inter t c = (s c && t c) := by
  simp [inter]

@[simp] theorem diff_apply (s t : CharSet) (c : Char) : s.diff t c = (s c && !t c) := by
  simp [diff]

@[simp] theorem symmDiff_apply (s t : CharSet) (c : Char) : s.symmDiff t c = (s c != t c) := by
  cases hs : s c <;> cases ht : t c <;> simp [symmDiff, hs, ht]

end CharSet

/-- The characters that have a property. -/
def Unicode.Property.set (p : Property) : CharSet := p.sets.foldl CharSet.insertAll .empty

end RecordFix
