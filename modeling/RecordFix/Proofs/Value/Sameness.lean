import Mathlib.Data.List.Nodup
import Mathlib.Data.List.Sort
import Mathlib.Data.String.Basic
import RecordFix.Value.Equality

/-!
# Values with their fields in order

Values are the same if they are equal once the fields of every hash in them, at any depth, have been
put in the order of their names (`Value.same_iff`). So sameness is an equivalence relation of the
values whose hashes have each name once (`Value.equivalence_same`), and the order of fields is all
that it leaves out.
-/

namespace RecordFix

namespace Entries

variable {α : Type} {es fs : Entries α}

/-- The entries in the order of their names. -/
def sorted (es : Entries α) : Entries α := es.mergeSort fun e f => decide (e.1 ≤ f.1)

theorem pairwise_sorted (es : Entries α) : es.sorted.Pairwise fun e f => e.1 ≤ f.1 := by
  have htrans (a b c : String × α) (hab : decide (a.1 ≤ b.1) = true)
      (hbc : decide (b.1 ≤ c.1) = true) : decide (a.1 ≤ c.1) = true :=
    decide_eq_true ((of_decide_eq_true hab).trans (of_decide_eq_true hbc))
  have htotal (a b : String × α) : (decide (a.1 ≤ b.1) || decide (b.1 ≤ a.1)) = true := by
    simpa using le_total a.1 b.1
  exact (List.pairwise_mergeSort htrans htotal es).imp of_decide_eq_true

theorem get?_of_mem (h : es.Unique) {e : String × α} (he : e ∈ es) : get? es e.1 = some e.2 := by
  cases hget : get? es e.1 with
  | none => exact absurd (List.mem_map_of_mem he) (get?_eq_none_iff.mp hget)
  | some v =>
    have heq : (e.1, v) = e := List.inj_on_of_nodup_map h (mem_of_get?_eq hget) he rfl
    rw [← heq]

/-- Entries are the same ones in another order just if sorting makes no difference between them. -/
theorem sorted_eq_iff (h : es.Unique) : es.sorted = fs.sorted ↔ es.Perm fs := by
  have hes : es.sorted.Perm es := List.mergeSort_perm _ _
  have hfs : fs.sorted.Perm fs := List.mergeSort_perm _ _
  constructor
  · intro heq
    exact hes.symm.trans (heq ▸ hfs)
  · intro hperm
    -- entries of one name are equal, so the order of names leaves no choice
    have hanti (a b : String × α) (ha : a ∈ es.sorted) (hb : b ∈ fs.sorted)
        (hab : a.1 ≤ b.1) (hba : b.1 ≤ a.1) : a = b :=
      List.inj_on_of_nodup_map h (hes.subset ha) (hperm.symm.subset (hfs.subset hb))
        (le_antisymm hab hba)
    exact (hes.trans (hperm.trans hfs.symm)).eq_of_pairwise hanti (pairwise_sorted es)
      (pairwise_sorted fs)

/-- As many entries that are all among others are the others in some order. -/
theorem perm_iff_subset (h : es.Unique) : es.Perm fs ↔ es.length = fs.length ∧ es ⊆ fs := by
  constructor
  · intro hperm
    exact ⟨hperm.length_eq, hperm.subset⟩
  · rintro ⟨hlength, hsubset⟩
    have hnodup : es.Nodup := List.Nodup.of_map Prod.fst h
    exact (List.subperm_of_subset hnodup hsubset).perm_of_length_le hlength.ge

end Entries

namespace Value

mutual

/-- The value with the fields of every hash in it in the order of their names. -/
def ordered : Value → Value
  | .string s => .string s
  | .array items => .array (orderedItems items)
  | .hash fields => .hash (Entries.sorted (orderedFields fields))

/-- The items with their fields in order. -/
def orderedItems : List Value → List Value
  | [] => []
  | v :: rest => v.ordered :: orderedItems rest

/-- The fields, in place, with the fields of their values in order. -/
def orderedFields : List (String × Value) → List (String × Value)
  | [] => []
  | (name, v) :: rest => (name, v.ordered) :: orderedFields rest

end

/-- A field, its name kept, with the fields of its value in order. -/
def orderedField (field : String × Value) : String × Value := (field.1, field.2.ordered)

variable {items others : List Value} {fields : Hash}

theorem orderedItems_eq_map (items : List Value) : orderedItems items = items.map ordered := by
  induction items with
  | nil => rfl
  | cons v rest ih => rw [orderedItems, ih, List.map_cons]

theorem orderedFields_eq_map (fields : Hash) : orderedFields fields = fields.map orderedField := by
  induction fields with
  | nil => rfl
  | cons field rest ih => rw [orderedFields, ih, List.map_cons, orderedField]

theorem unique_orderedFields (h : Entries.Unique fields) :
    Entries.Unique (orderedFields fields) := by
  unfold Entries.Unique Entries.names at h ⊢
  rwa [orderedFields_eq_map, List.map_map]

theorem length_orderedFields (fields : Hash) : (orderedFields fields).length = fields.length := by
  rw [orderedFields_eq_map, List.length_map]

/-! ## Sameness item by item and field by field -/

theorem sameItems_iff
    (h : ∀ v ∈ items, ∀ w ∈ others, v.same w = true ↔ v.ordered = w.ordered) :
    sameItems items others = true ↔ orderedItems items = orderedItems others := by
  induction items generalizing others with
  | nil => cases others <;> simp [sameItems, orderedItems]
  | cons v rest ih =>
    cases others with
    | nil => simp [sameItems, orderedItems]
    | cons w more =>
      have hhead : v.same w = true ↔ v.ordered = w.ordered :=
        h v List.mem_cons_self w List.mem_cons_self
      have htail : sameItems rest more = true ↔ orderedItems rest = orderedItems more :=
        ih fun v hv w hw => h v (List.mem_cons_of_mem _ hv) w (List.mem_cons_of_mem _ hw)
      rw [sameItems, Bool.and_eq_true, hhead, htail, orderedItems, orderedItems, List.cons.injEq]

theorem sameFields_iff {fields others : Hash} : sameFields fields others = true ↔
    ∀ field ∈ fields, ∃ w, Entries.get? others field.1 = some w ∧ field.2.same w = true := by
  induction fields with
  | nil => simp [sameFields]
  | cons field rest ih =>
    rw [sameFields, Bool.and_eq_true, ih, List.forall_mem_cons, Entries.get?]
    cases List.lookup field.1 others <;> simp

theorem sameFields_iff_subset {fields others : Hash} (hu : Entries.Unique others)
    (h : ∀ field ∈ fields, ∀ other ∈ others,
      field.2.same other.2 = true ↔ field.2.ordered = other.2.ordered) :
    sameFields fields others = true ↔ orderedFields fields ⊆ orderedFields others := by
  rw [sameFields_iff, orderedFields_eq_map, orderedFields_eq_map]
  constructor
  · intro hsame e he
    obtain ⟨field, hfield, rfl⟩ := List.mem_map.mp he
    obtain ⟨w, hget, hw⟩ := hsame field hfield
    have hother : (field.1, w) ∈ others := Entries.mem_of_get?_eq hget
    have heq : field.2.ordered = w.ordered := (h field hfield _ hother).mp hw
    exact List.mem_map.mpr ⟨(field.1, w), hother, by rw [orderedField, orderedField, heq]⟩
  · intro hsubset field hfield
    obtain ⟨other, hother, heq⟩ := List.mem_map.mp (hsubset (List.mem_map_of_mem hfield))
    obtain ⟨hname, hvalue⟩ := Prod.mk.inj heq
    refine ⟨other.2, ?_, (h field hfield other hother).mpr hvalue.symm⟩
    rw [← hname]
    exact Entries.get?_of_mem hu hother

/-- Values whose hashes have each name once are the same just if they are equal with their fields in
order. -/
theorem same_iff {v w : Value} (hv : v.Distinct) (hw : w.Distinct) :
    v.same w = true ↔ v.ordered = w.ordered := by
  induction v using induct generalizing w with
  | string s => cases w <;> simp [same, ordered]
  | array items ih =>
    cases w with
    | string | hash => simp [same, ordered]
    | array others =>
      have hitems : ∀ v ∈ items, ∀ w ∈ others, v.same w = true ↔ v.ordered = w.ordered :=
        fun v hmem w hmem' => ih v hmem (distinct_array.mp hv v hmem) (distinct_array.mp hw w hmem')
      rw [same, sameItems_iff hitems, ordered, ordered, array.injEq]
  | hash fields ih =>
    cases w with
    | string | array => simp [same, ordered]
    | hash others =>
      obtain ⟨hunique, hfields⟩ := distinct_hash.mp hv
      obtain ⟨hunique', hothers⟩ := distinct_hash.mp hw
      have hvalues : ∀ field ∈ fields, ∀ other ∈ others,
          field.2.same other.2 = true ↔ field.2.ordered = other.2.ordered :=
        fun field hmem other hmem' => ih field hmem (hfields field hmem) (hothers other hmem')
      rw [same, Bool.and_eq_true, beq_iff_eq, sameFields_iff_subset hunique' hvalues, ordered,
        ordered, hash.injEq, Entries.sorted_eq_iff (unique_orderedFields hunique),
        Entries.perm_iff_subset (unique_orderedFields hunique), length_orderedFields,
        length_orderedFields]

/-- Sameness is an equivalence relation of the values whose hashes have each name once. -/
theorem equivalence_same :
    Equivalence fun v w : { v : Value // v.Distinct } => v.1.same w.1 = true where
  refl v := (same_iff v.2 v.2).mpr rfl
  symm := by
    intro v w h
    exact (same_iff w.2 v.2).mpr ((same_iff v.2 w.2).mp h).symm
  trans := by
    intro u v w huv hvw
    exact (same_iff u.2 w.2).mpr (((same_iff u.2 v.2).mp huv).trans ((same_iff v.2 w.2).mp hvw))

end Value

end RecordFix
