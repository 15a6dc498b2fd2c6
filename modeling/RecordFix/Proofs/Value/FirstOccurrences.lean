import Mathlib.Data.List.Forall2
import Mathlib.Data.List.Induction
import Mathlib.Order.Monotone.Basic
import RecordFix.Proofs.Value.Sameness

/-!
# First occurrences

Of the values that are the same the first one is kept. The places of what is kept are those where
the value is the same as none before (`Value.exists_places`), which is shown by taking in one value
after the other (`Value.unique_concat`). All else follows from this: nothing that is kept is there
twice, each value is the same as one that is kept no later, and what is kept stays
(`Value.unique_firsts`).
-/

namespace RecordFix

namespace Value

variable {kept values : List Value} {v : Value}

theorem uniqueAfter_sublist (kept values : List Value) :
    (uniqueAfter kept values).Sublist values := by
  induction values generalizing kept with
  | nil => exact List.Sublist.refl []
  | cons v rest ih =>
    rw [uniqueAfter]
    split
    · exact (ih kept).cons v
    · exact (ih (kept ++ [v])).cons_cons v

theorem uniqueAfter_append (kept values more : List Value) :
    uniqueAfter kept (values ++ more) =
      uniqueAfter kept values ++ uniqueAfter (kept ++ uniqueAfter kept values) more := by
  induction values generalizing kept with
  | nil => rw [List.nil_append, uniqueAfter, List.nil_append, List.append_nil]
  | cons v rest ih =>
    rw [List.cons_append, uniqueAfter, uniqueAfter]
    split
    · exact ih kept
    · rw [ih, List.cons_append, List.append_assoc, List.singleton_append]

/-! ## Taking in one value -/

/-- A value is the same as one of others just if it is among them once fields are in order. -/
theorem any_same_iff (hkept : ∀ w ∈ kept, w.Distinct) (hv : v.Distinct) :
    kept.any (·.same v) = true ↔ v.ordered ∈ kept.map ordered := by
  rw [List.any_eq_true, List.mem_map]
  exact exists_congr fun w => and_congr_right fun hw => same_iff (hkept w hw) hv

/-- Each value is the same as one that is kept. -/
theorem mem_map_ordered_uniqueAfter (hd : ∀ w ∈ kept ++ values, w.Distinct) (key : Value) :
    key ∈ (kept ++ uniqueAfter kept values).map ordered ↔ key ∈ (kept ++ values).map ordered := by
  induction values generalizing kept with
  | nil => rw [uniqueAfter]
  | cons v rest ih =>
    have hkept : ∀ w ∈ kept, w.Distinct := fun w hw => hd w (List.mem_append_left _ hw)
    have hv : v.Distinct := hd v (List.mem_append_right _ List.mem_cons_self)
    have hrest : ∀ w ∈ rest, w.Distinct := fun w hw =>
      hd w (List.mem_append_right _ (List.mem_cons_of_mem v hw))
    rw [uniqueAfter]
    split
    case isTrue hsame =>
      have hmem : v.ordered ∈ kept.map ordered := (any_same_iff hkept hv).mp hsame
      rw [ih (List.forall_mem_append.mpr ⟨hkept, hrest⟩)]
      simp only [List.map_append, List.map_cons, List.mem_append, List.mem_cons]
      constructor
      · exact Or.imp_right .inr
      · rintro (h | rfl | h)
        · exact .inl h
        · exact .inl hmem
        · exact .inr h
    case isFalse =>
      have hmore : ∀ w ∈ kept ++ [v] ++ rest, w.Distinct := by
        rwa [List.append_assoc]
      simpa only [List.append_assoc, List.singleton_append] using ih hmore

theorem mem_map_ordered_unique (hd : ∀ w ∈ values, w.Distinct) (key : Value) :
    key ∈ (unique values).map ordered ↔ key ∈ values.map ordered :=
  @mem_map_ordered_uniqueAfter [] values hd key

theorem distinct_unique (hd : ∀ w ∈ values, w.Distinct) : ∀ w ∈ unique values, w.Distinct :=
  fun w hw => hd w ((uniqueAfter_sublist [] values).subset hw)

/-- A value that comes last is kept unless it is the same as one before. -/
theorem unique_concat (hd : ∀ w ∈ values ++ [v], w.Distinct) :
    unique (values ++ [v]) =
      unique values ++ if v.ordered ∈ values.map ordered then [] else [v] := by
  obtain ⟨hvalues, hv⟩ := List.forall_mem_append.mp hd
  have hkept : (unique values).any (·.same v) = true ↔ v.ordered ∈ values.map ordered := by
    rw [any_same_iff (distinct_unique hvalues) (hv v List.mem_cons_self),
      mem_map_ordered_unique hvalues]
  have hlast : uniqueAfter (unique values) [v] =
      if v.ordered ∈ values.map ordered then [] else [v] := by
    rw [uniqueAfter, uniqueAfter, uniqueAfter]
    exact if_congr hkept rfl rfl
  rw [← hlast]
  exact uniqueAfter_append [] values [v]

/-- Nothing is kept twice. -/
theorem nodup_map_ordered_unique (hd : ∀ w ∈ values, w.Distinct) :
    ((unique values).map ordered).Nodup := by
  induction values using List.reverseRecOn with
  | nil => exact .nil
  | append_singleton values v ih =>
    have hvalues : ∀ w ∈ values, w.Distinct := (List.forall_mem_append.mp hd).1
    rw [unique_concat hd]
    split
    case isTrue =>
      rw [List.append_nil]
      exact ih hvalues
    case isFalse hnew =>
      rw [List.map_append, List.nodup_append]
      refine ⟨ih hvalues, List.nodup_singleton _, fun key hkey other hother heq => hnew ?_⟩
      rw [← List.mem_singleton.mp hother, ← heq]
      exact (mem_map_ordered_unique hvalues key).mp hkey

/-- Values that are not the same are all kept. -/
theorem uniqueAfter_of_nodup (hd : ∀ w ∈ kept ++ values, w.Distinct)
    (h : ((kept ++ values).map ordered).Nodup) : uniqueAfter kept values = values := by
  induction values generalizing kept with
  | nil => rw [uniqueAfter]
  | cons v rest ih =>
    have hnew : ¬ kept.any (·.same v) = true := by
      rw [any_same_iff (fun w hw => hd w (List.mem_append_left _ hw))
        (hd v (List.mem_append_right _ List.mem_cons_self))]
      rw [List.map_append, List.nodup_append] at h
      exact fun hmem => h.2.2 _ hmem _ (List.mem_map_of_mem List.mem_cons_self) rfl
    rw [← List.singleton_append, ← List.append_assoc] at hd h
    rw [uniqueAfter, if_neg hnew, ih hd h]

/-! ## Places -/

/-- The value at the place is the same as none before. -/
def FirstAt (values : List Value) (i : Nat) : Prop :=
  ∃ v, values[i]? = some v ∧ v.ordered ∉ (values.take i).map ordered

theorem FirstAt.lt {i : Nat} (h : FirstAt values i) : i < values.length := by
  obtain ⟨v, hv, -⟩ := h
  exact (List.getElem?_eq_some_iff.mp hv).1

theorem firstAt_append_left {i : Nat} (h : i < values.length) (more : List Value) :
    FirstAt (values ++ more) i ↔ FirstAt values i := by
  unfold FirstAt
  rw [List.getElem?_append_left h, List.take_append_of_le_length h.le]

theorem firstAt_length :
    FirstAt (values ++ [v]) values.length ↔ v.ordered ∉ values.map ordered := by
  unfold FirstAt
  rw [List.getElem?_concat_length, List.take_left]
  simp

/-- What is kept stands at the places where a value is the same as none before. -/
theorem exists_places (hd : ∀ w ∈ values, w.Distinct) :
    ∃ places : List Nat, places.Pairwise (· < ·) ∧
      List.Forall₂ (fun i v => values[i]? = some v) places (unique values) ∧
      ∀ i, i ∈ places ↔ FirstAt values i := by
  -- whether a place is kept depends on what stands before it, so values are taken in at the end
  induction values using List.reverseRecOn with
  | nil => exact ⟨[], .nil, .nil, by simp [FirstAt]⟩
  | append_singleton values v ih =>
    obtain ⟨places, hsorted, hkept, hfirst⟩ := ih (List.forall_mem_append.mp hd).1
    have hlt : ∀ i ∈ places, i < values.length := fun i hi => ((hfirst i).mp hi).lt
    have hkept' : List.Forall₂ (fun i w => (values ++ [v])[i]? = some w) places (unique values) :=
      hkept.imp fun i w hw => by
        rwa [List.getElem?_append_left (List.getElem?_eq_some_iff.mp hw).1]
    have hplace (i : Nat) : FirstAt (values ++ [v]) i ↔
        i ∈ places ∨ i = values.length ∧ v.ordered ∉ values.map ordered := by
      rcases Nat.lt_trichotomy i values.length with hi | rfl | hi
      · rw [firstAt_append_left hi, ← hfirst]
        exact (or_iff_left fun h => hi.ne h.1).symm
      · rw [firstAt_length]
        exact (or_iff_right fun h => (hlt _ h).ne rfl).trans (and_iff_right rfl) |>.symm
      · refine iff_of_false (fun h => ?_) (fun h => ?_)
        · have hle := h.lt
          rw [List.length_append, List.length_singleton] at hle
          omega
        · rcases h with h | h
          · exact hi.asymm (hlt i h)
          · exact hi.ne' h.1
    rw [unique_concat hd]
    by_cases hmem : v.ordered ∈ values.map ordered
    · refine ⟨places, hsorted, ?_, fun i => ?_⟩
      · rwa [if_pos hmem, List.append_nil]
      · rw [hplace]
        exact (or_iff_left fun h => h.2 hmem).symm
    · refine ⟨places ++ [values.length], ?_, ?_, fun i => ?_⟩
      · exact List.pairwise_append.mpr ⟨hsorted, List.pairwise_singleton _ _,
          fun i hi j hj => List.mem_singleton.mp hj ▸ hlt i hi⟩
      · rw [if_neg hmem]
        exact List.rel_append hkept' (.cons List.getElem?_concat_length .nil)
      · rw [hplace, List.mem_append, List.mem_singleton]
        exact or_congr_right (and_iff_left hmem).symm

theorem firstAt_iff {i : Nat} (hi : i < values.length) :
    FirstAt values i ↔ ∀ j (hj : j < i), values[j].ordered ≠ values[i].ordered := by
  unfold FirstAt
  rw [List.getElem?_eq_getElem hi]
  simp only [Option.some.injEq, exists_eq_left', List.mem_map, List.mem_take_iff_getElem]
  constructor
  · intro hnew j hj heq
    exact hnew ⟨values[j], ⟨j, lt_min hj (hj.trans hi), rfl⟩, heq⟩
  · rintro hbefore ⟨w, ⟨j, hj, rfl⟩, heq⟩
    exact hbefore j (hj.trans_le (min_le_left _ _)) heq

/-- Each value is the same as the first one of its kind, which stands no later. -/
theorem exists_firstAt {i : Nat} (hi : i < values.length) :
    ∃ j, ∃ hj : j < values.length, j ≤ i ∧ FirstAt values j ∧
      values[j].ordered = values[i].ordered := by
  induction i using Nat.strongRecOn with
  | ind i ih =>
    by_cases hfirst : FirstAt values i
    · exact ⟨i, hi, Nat.le_refl i, hfirst, rfl⟩
    · rw [firstAt_iff hi] at hfirst
      push Not at hfirst
      obtain ⟨j, hj, heq⟩ := hfirst
      obtain ⟨l, hl, hlj, hfirst, heq'⟩ := ih j hj (hj.trans hi)
      exact ⟨l, hl, hlj.trans hj.le, hfirst, heq'.trans heq⟩

/-- Of values whose hashes have each name once, the first occurrences are kept, in order: those at
the places where the value is the same as none before, the order of fields left aside. No two that
are kept are the same, each value is the same as one that is kept at its place or before, and
nothing changes if what is kept is gone through again. -/
theorem unique_firsts (values : List Value) (hd : ∀ v ∈ values, v.Distinct) :
    (∀ v ∈ values, ∀ w ∈ values, v.same w = true ↔ v.ordered = w.ordered) ∧
    (∃ place : Fin (unique values).length → Fin values.length, StrictMono place ∧
      (∀ k, values[place k] = (unique values)[k]) ∧
      (∀ i, i ∈ Set.range place ↔ ∀ j < i, values[j].ordered ≠ values[i].ordered) ∧
      ∀ i, ∃ k, place k ≤ i ∧ (unique values)[k].ordered = values[i].ordered) ∧
    (∀ k l : Fin (unique values).length,
      (unique values)[k].ordered = (unique values)[l].ordered → k = l) ∧
    unique (unique values) = unique values := by
  have hnodup : ((unique values).map ordered).Nodup := nodup_map_ordered_unique hd
  refine ⟨fun v hv w hw => same_iff (hd v hv) (hd w hw), ?_, ?_, ?_⟩
  · obtain ⟨places, hsorted, hkept, hfirst⟩ := exists_places hd
    obtain ⟨hlength, hget⟩ := List.forall₂_iff_get.mp hkept
    have hat (k : Fin (unique values).length) :
        values[places.get (k.cast hlength.symm)]? = some (unique values)[k] := hget k _ k.isLt
    have hlt (k : Fin (unique values).length) :
        places.get (k.cast hlength.symm) < values.length :=
      (List.getElem?_eq_some_iff.mp (hat k)).1
    let place (k : Fin (unique values).length) : Fin values.length := ⟨_, hlt k⟩
    have hvalue (k : Fin (unique values).length) : values[place k] = (unique values)[k] :=
      (List.getElem?_eq_some_iff.mp (hat k)).2
    have hrange (i : Fin values.length) : i ∈ Set.range place ↔ FirstAt values i := by
      rw [← hfirst]
      constructor
      · rintro ⟨k, rfl⟩
        exact List.get_mem _ _
      · intro hmem
        obtain ⟨k, hk⟩ := List.get_of_mem hmem
        exact ⟨k.cast hlength, Fin.ext hk⟩
    refine ⟨place, fun k l hkl => List.pairwise_iff_get.mp hsorted _ _ hkl, hvalue, ?_, ?_⟩
    · intro i
      rw [hrange, firstAt_iff i.isLt]
      exact ⟨fun h j hj => h j hj, fun h j hj => h ⟨j, hj.trans i.isLt⟩ hj⟩
    · intro i
      obtain ⟨j, hj, hji, hplace, heq⟩ := exists_firstAt i.isLt
      obtain ⟨k, hk⟩ := (hrange ⟨j, hj⟩).mpr hplace
      refine ⟨k, hk ▸ hji, ?_⟩
      rw [← hvalue, hk]
      exact heq
  · intro k l heq
    have hvalue : (unique values)[k] = (unique values)[l] :=
      List.inj_on_of_nodup_map hnodup (List.getElem_mem _) (List.getElem_mem _) heq
    exact Fin.ext ((List.Nodup.getElem_inj_iff (.of_map ordered hnodup)).mp hvalue)
  · exact uniqueAfter_of_nodup (distinct_unique hd) hnodup

/-- A hash is dropped that has the fields of an earlier one in another order, at two depths. A
string and the array of it stay apart. -/
theorem unique_firsts_worksSample :
    let work : Value := .hash [("id", .string "x"),
      ("by", .hash [("first", .string "a"), ("last", .string "b")])]
    let again : Value := .hash [("by", .hash [("last", .string "b"), ("first", .string "a")]),
      ("id", .string "x")]
    let values := [work, .string "x", again, .array [.string "x"], .string "x"]
    work.ordered = again.ordered ∧
      unique values = [work, .string "x", .array [.string "x"]] ∧
      unique (unique values) = unique values ∧
      ∃ place : Fin (unique values).length → Fin values.length, StrictMono place ∧
        ∀ i, i ∈ Set.range place ↔ ∀ j < i, values[j].ordered ≠ values[i].ordered := by
  intro work again values
  have hd : ∀ v ∈ values, v.Distinct := by decide
  obtain ⟨hsame, ⟨place, hmono, -, hrange, -⟩, -, hagain⟩ := unique_firsts values hd
  refine ⟨(hsame work (by decide) again (by decide)).mp (by decide), by decide, hagain, place,
    hmono, hrange⟩

end Value

end RecordFix
