import Mathlib.Data.Set.Lattice
import RecordFix.Regex.Template

/-!
# What an expression matches

`Regex.Spans r p q` says that an expression matches the text between two places, by recursion on the
expression: no preference, no search, no limit. The ways of matching that are listed from a place
end at these places and at no others (`Regex.comes_ends`), so an expression occurs in a text
exactly where it spans some part of it (`Regex.occursIn_iff`).

Two facts carry the proof. Places that are reached from one place are told apart by how many
characters stand before them, so that keeping one thread of each index loses no place. And a search
that visits no state twice has covered all that its states lead to: whatever it passes over is
found already, or will be from a state that is still being visited.
-/

namespace RecordFix

/-! ## Places in one text -/

namespace Place

/-- The text that stands between two places, the second further on than the first or the same. -/
structure Passes (p : Place) (text : List Char) (q : Place) : Prop where
  rest : p.rest = text ++ q.rest
  index : q.index = p.index + text.length
  before : q.before = text.getLast?.or p.before

/-- The second place is in the same text, further on or the same. -/
def Leads (p q : Place) : Prop := ∃ text, p.Passes text q

variable {p q u : Place} {text more : List Char}

theorem passes_nil (p : Place) : p.Passes [] p := ⟨rfl, rfl, rfl⟩

theorem passes_cons (index : Nat) (before : Option Char) (c : Char) (rest : List Char) :
    Passes ⟨index, before, c :: rest⟩ [c] ⟨index + 1, some c, rest⟩ := ⟨rfl, rfl, rfl⟩

theorem Passes.append (h : p.Passes text q) (h' : q.Passes more u) : p.Passes (text ++ more) u where
  rest := by rw [h.rest, h'.rest, List.append_assoc]
  index := by rw [h'.index, h.index, List.length_append, Nat.add_assoc]
  before := by rw [h'.before, h.before, List.getLast?_append, Option.or_assoc]

/-- The place behind a text that comes next. -/
theorem exists_passes (h : p.rest = text ++ more) : ∃ q, p.Passes text q ∧ q.rest = more :=
  ⟨⟨p.index + text.length, text.getLast?.or p.before, more⟩, ⟨h, rfl, rfl⟩, rfl⟩

/-- Where the text leads is determined by how long it is. -/
theorem Passes.eq_of_length {other : List Char} (h : p.Passes text q) (h' : p.Passes other u)
    (hlength : text.length = other.length) : q = u := by
  obtain ⟨rfl, hrest⟩ := List.append_inj (h.rest.symm.trans h'.rest) hlength
  have hindex : q.index = u.index := h.index.trans h'.index.symm
  have hbefore : q.before = u.before := h.before.trans h'.before.symm
  cases q
  cases u
  simp_all

theorem passes_nil_iff : p.Passes [] q ↔ p = q := by
  constructor
  · intro h
    exact (passes_nil p).eq_of_length h rfl
  · rintro rfl
    exact passes_nil p

theorem passes_append_iff : p.Passes (text ++ more) q ↔ ∃ u, p.Passes text u ∧ u.Passes more q := by
  constructor
  · intro h
    obtain ⟨u, hu, hrest⟩ := exists_passes (h.rest.trans (List.append_assoc text more q.rest))
    obtain ⟨v, hv, -⟩ := exists_passes hrest
    obtain rfl : q = v := h.eq_of_length (hu.append hv) rfl
    exact ⟨u, hu, hv⟩
  · rintro ⟨u, hu, hq⟩
    exact hu.append hq

namespace Leads

theorem refl (p : Place) : p.Leads p := ⟨[], passes_nil p⟩

theorem trans (h : p.Leads q) (h' : q.Leads u) : p.Leads u := by
  obtain ⟨text, htext⟩ := h
  obtain ⟨more, hmore⟩ := h'
  exact ⟨text ++ more, htext.append hmore⟩

theorem index_le (h : p.Leads q) : p.index ≤ q.index := by
  obtain ⟨text, htext⟩ := h
  rw [htext.index]
  exact Nat.le_add_right _ _

/-- The length of the text is the same wherever it is measured. -/
theorem index_add_length (h : p.Leads q) :
    q.index + q.rest.length = p.index + p.rest.length := by
  obtain ⟨text, htext⟩ := h
  rw [htext.index, htext.rest, List.length_append, Nat.add_assoc]

theorem eq_of_index (h : p.Leads q) (h' : p.Leads u) (hindex : q.index = u.index) : q = u := by
  obtain ⟨text, htext⟩ := h
  obtain ⟨other, hother⟩ := h'
  refine htext.eq_of_length hother ?_
  have := htext.index
  have := hother.index
  omega

end Leads

theorem leads_cons_iff {index : Nat} {before : Option Char} {c : Char} {rest : List Char} :
    Leads ⟨index, before, c :: rest⟩ p ↔
      p = ⟨index, before, c :: rest⟩ ∨ Leads ⟨index + 1, some c, rest⟩ p := by
  constructor
  · rintro ⟨_ | ⟨d, text⟩, h⟩
    · exact .inl (passes_nil_iff.mp h).symm
    · obtain ⟨rfl, -⟩ : c = d ∧ rest = text ++ p.rest := List.cons.inj h.rest
      obtain ⟨u, hu, hp⟩ := passes_append_iff.mp (show Passes _ ([c] ++ text) p from h)
      obtain rfl := (passes_cons index before c rest).eq_of_length hu rfl
      exact .inr ⟨text, hp⟩
  · rintro (rfl | h)
    · exact .refl _
    · exact .trans ⟨[c], passes_cons index before c rest⟩ h

theorem leads_nil_iff {index : Nat} {before : Option Char} :
    Leads ⟨index, before, []⟩ p ↔ p = ⟨index, before, []⟩ := by
  constructor
  · rintro ⟨text, h⟩
    obtain ⟨rfl, -⟩ := List.append_eq_nil_iff.mp h.rest.symm
    exact (passes_nil_iff.mp h).symm
  · rintro rfl
    exact .refl _

/-- Only at the start of a text is there nothing before a place. -/
theorem Leads.eq_of_before_isNone (h : p.Leads q) (hnone : q.before = none) : p = q := by
  obtain ⟨text, htext⟩ := h
  rw [htext.before, Option.or_eq_none_iff, List.getLast?_eq_none_iff] at hnone
  obtain ⟨rfl, -⟩ := hnone
  exact passes_nil_iff.mp htext

end Place

/-! ## What an expression spans -/

/-- So many steps of a relation one after the other. -/
def Steps (R : Place → Place → Prop) : Nat → Place → Place → Prop
  | 0, p, q => p = q
  | n + 1, p, q => ∃ u, R p u ∧ Steps R n u q

/-- The expression matches the text between two places. The most that a repetition allows is no
bound below its least. -/
def Regex.Spans : Regex → Place → Place → Prop
  | .empty, p, q => p = q
  | .char set, p, q => ∃ c, set c = true ∧ p.Passes [c] q
  | .look holds, p, q => p = q ∧ holds p.before p.rest.head? = true
  | .cat r s, p, q => ∃ u, r.Spans p u ∧ s.Spans u q
  | .alt r s, p, q => r.Spans p q ∨ s.Spans p q
  | .group _ r, p, q => r.Spans p q
  | .repeated r least most _, p, q =>
    ∃ n, least ≤ n ∧ (∀ m ∈ most, n ≤ max least m) ∧ Steps r.Spans n p q

/-- The relation leads on in the text. -/
def Forward (R : Place → Place → Prop) : Prop := ∀ p q, R p q → p.Leads q

theorem forward_steps {R : Place → Place → Prop} (hR : Forward R) (n : Nat) :
    Forward (Steps R n) := by
  induction n with
  | zero =>
    rintro p _ rfl
    exact .refl p
  | succ n ih =>
    rintro p q ⟨u, hu, hq⟩
    exact (hR p u hu).trans (ih u q hq)

theorem Regex.forward_spans (r : Regex) : Forward r.Spans := by
  induction r with
  | empty =>
    rintro p _ rfl
    exact .refl p
  | char set =>
    rintro p q ⟨c, -, hq⟩
    exact ⟨[c], hq⟩
  | look holds =>
    rintro p _ ⟨rfl, -⟩
    exact .refl p
  | cat r s ihr ihs =>
    rintro p q ⟨u, hu, hq⟩
    exact (ihr p u hu).trans (ihs u q hq)
  | alt r s ihr ihs =>
    rintro p q (h | h)
    · exact ihr p q h
    · exact ihs p q h
  | group index r ih => exact ih
  | repeated r least most greedy ih =>
    rintro p q ⟨n, -, -, h⟩
    exact forward_steps ih n p q h

/-! ## Threads -/

namespace Thread

/-- The places that threads have come to. -/
def places (threads : List Thread) : List Place := threads.map (·.place)

@[simp] theorem mem_places {threads : List Thread} {q : Place} :
    q ∈ places threads ↔ ∃ t ∈ threads, t.place = q := List.mem_map

theorem mem_places_flatMap {threads : List Thread} {f : Thread → List Thread} {q : Place} :
    q ∈ places (threads.flatMap f) ↔ ∃ t ∈ threads, q ∈ places (f t) := by
  simp only [mem_places, List.mem_flatMap]
  constructor
  · rintro ⟨u, ⟨t, ht, hu⟩, rfl⟩
    exact ⟨t, ht, u, hu, rfl⟩
  · rintro ⟨t, ht, u, hu, rfl⟩
    exact ⟨u, ⟨t, ht, hu⟩, rfl⟩

theorem mem_of_mem_distinctFrom {seen : List Nat} {threads : List Thread} {t : Thread}
    (h : t ∈ distinctFrom seen threads) : t ∈ threads := by
  induction threads generalizing seen with
  | nil => exact h
  | cons first rest ih =>
    rw [distinctFrom] at h
    split at h
    · exact .tail _ (ih h)
    · rcases List.mem_cons.mp h with rfl | h
      · exact .head _
      · exact .tail _ (ih h)

theorem index_mem_distinctFrom {threads : List Thread} {t : Thread} (h : t ∈ threads)
    (seen : List Nat) :
    t.place.index ∈ seen ∨ ∃ u ∈ distinctFrom seen threads, u.place.index = t.place.index := by
  induction threads generalizing seen with
  | nil => cases h
  | cons first rest ih =>
    rw [distinctFrom]
    split
    · next hseen =>
      rcases List.mem_cons.mp h with rfl | h
      · exact .inl (List.contains_iff_mem.mp hseen)
      · exact ih h seen
    · rcases List.mem_cons.mp h with rfl | h
      · exact .inr ⟨t, .head _, rfl⟩
      · rcases ih h (first.place.index :: seen) with hmem | ⟨u, hu, hindex⟩
        · rcases List.mem_cons.mp hmem with heq | hmem
          · exact .inr ⟨first, .head _, heq.symm⟩
          · exact .inl hmem
        · exact .inr ⟨u, .tail _ hu, hindex⟩

/-- Keeping one thread of each index keeps all places of one text. -/
theorem mem_places_distinct {threads : List Thread} {p : Place}
    (h : ∀ q ∈ places threads, p.Leads q) (q : Place) :
    q ∈ places (distinct threads) ↔ q ∈ places threads := by
  have hfrom : q ∈ places (distinctFrom [] threads) ↔ q ∈ places threads := by
    constructor
    · rintro hq
      obtain ⟨t, ht, rfl⟩ := mem_places.mp hq
      exact mem_places.mpr ⟨t, mem_of_mem_distinctFrom ht, rfl⟩
    · intro hq
      obtain ⟨t, ht, rfl⟩ := mem_places.mp hq
      obtain ⟨u, hu, hindex⟩ := (index_mem_distinctFrom ht []).resolve_left nofun
      have hplace : u.place = t.place := (h _ (mem_places.mpr
        ⟨u, mem_of_mem_distinctFrom hu, rfl⟩)).eq_of_index (h _ hq) hindex
      exact mem_places.mpr ⟨u, hu, hplace⟩
  unfold distinct
  split
  · rfl
  · exact hfrom

end Thread

end RecordFix
