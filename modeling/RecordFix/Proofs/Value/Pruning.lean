import Mathlib.Data.List.Basic
import RecordFix.Hash
import RecordFix.Proofs.Value.Leaves

/-!
# Removing empty values

A container may become empty because all that it holds is removed. So what goes is not only what is
empty before, but all that holds no text: each string at its leaves is empty, or there is none
(`Value.isEmpty_removeEmpty`). The rest stays, in order and under its names, and nothing in the tree
is empty afterwards (`Hash.removeEmpty_exact`).
-/

namespace RecordFix

namespace Value

mutual

/-- The values in the tree below a value, in order. -/
def inner : Value → List Value
  | .string _ => []
  | .array items => innerItems items
  | .hash fields => innerFields fields

/-- The items with the values below them. -/
def innerItems : List Value → List Value
  | [] => []
  | v :: rest => v :: v.inner ++ innerItems rest

/-- The values of fields with the values below them. -/
def innerFields : List (String × Value) → List Value
  | [] => []
  | (_, v) :: rest => v :: v.inner ++ innerFields rest

end

/-- Whether a string at a leaf of the tree is not empty. -/
def hasText (v : Value) : Bool := v.leaves.any (!·.isEmpty)

/-- Nothing in the tree below the value is empty. -/
def Pruned (v : Value) : Prop := ∀ w ∈ v.inner, w.isEmpty = false

theorem innerItems_eq_flatMap (items : List Value) :
    innerItems items = items.flatMap fun v => v :: v.inner := by
  induction items with
  | nil => rfl
  | cons v rest ih => rw [innerItems, List.flatMap_cons, ih]

theorem innerFields_eq_flatMap (fields : Hash) :
    innerFields fields = fields.flatMap fun field => field.2 :: field.2.inner := by
  induction fields with
  | nil => rfl
  | cons field rest ih => rw [innerFields, List.flatMap_cons, ih]

theorem hasText_array (items : List Value) : (array items).hasText = items.any hasText := by
  rw [hasText, leaves, leavesOfItems_eq_flatMap, List.any_flatMap]
  rfl

theorem hasText_hash (fields : Hash) : (hash fields).hasText = fields.any (·.2.hasText) := by
  rw [hasText, leaves, leavesOfFields_eq_flatMap, List.any_flatMap]
  rfl

/-! ## What is removed -/

theorem isEmpty_filter {α : Type} (p : α → Bool) (xs : List α) :
    (xs.filter p).isEmpty = !xs.any p := by
  rw [Bool.eq_iff_iff]
  simp

section

variable {items : List Value} {fields : Hash}

theorem removeEmptyItems_of_isEmpty (h : ∀ v ∈ items, v.removeEmpty.isEmpty = !v.hasText) :
    removeEmptyItems items = (items.filter hasText).map removeEmpty := by
  induction items with
  | nil => rfl
  | cons v rest ih =>
    obtain ⟨hv, hrest⟩ := List.forall_mem_cons.mp h
    rw [removeEmptyItems, ih hrest, hv]
    cases htext : v.hasText <;> simp [htext]

theorem removeEmptyFields_of_isEmpty
    (h : ∀ field ∈ fields, field.2.removeEmpty.isEmpty = !field.2.hasText) :
    removeEmptyFields fields =
      (fields.filter (·.2.hasText)).map fun field => (field.1, field.2.removeEmpty) := by
  induction fields with
  | nil => rfl
  | cons field rest ih =>
    obtain ⟨hv, hrest⟩ := List.forall_mem_cons.mp h
    rw [removeEmptyFields, ih hrest, hv]
    cases htext : field.2.hasText <;> simp [htext]

end

/-- What becomes empty is exactly what holds no text. -/
theorem isEmpty_removeEmpty (v : Value) : v.removeEmpty.isEmpty = !v.hasText := by
  induction v using induct with
  | string s => simp [removeEmpty, isEmpty, hasText, leaves]
  | array items ih =>
    rw [removeEmpty, isEmpty, removeEmptyItems_of_isEmpty ih, List.isEmpty_map, isEmpty_filter,
      hasText_array]
  | hash fields ih =>
    rw [removeEmpty, isEmpty, removeEmptyFields_of_isEmpty ih, List.isEmpty_map, isEmpty_filter,
      hasText_hash]

theorem removeEmpty_array (items : List Value) :
    (array items).removeEmpty = array ((items.filter hasText).map removeEmpty) := by
  rw [removeEmpty, removeEmptyItems_of_isEmpty fun v _ => isEmpty_removeEmpty v]

theorem removeEmpty_hash (fields : Hash) :
    (hash fields).removeEmpty =
      hash ((fields.filter (·.2.hasText)).map fun field => (field.1, field.2.removeEmpty)) := by
  rw [removeEmpty, removeEmptyFields_of_isEmpty fun field _ => isEmpty_removeEmpty field.2]

/-! ## What is left -/

theorem flatMap_filter_of_nil {α β : Type} {p : α → Bool} {f : α → List β} (xs : List α)
    (h : ∀ x ∈ xs, p x = false → f x = []) : (xs.filter p).flatMap f = xs.flatMap f := by
  induction xs with
  | nil => rfl
  | cons x rest ih =>
    obtain ⟨hx, hrest⟩ := List.forall_mem_cons.mp h
    rw [List.filter_cons, List.flatMap_cons, ← ih hrest]
    cases hp : p x with
    | true => exact List.flatMap_cons
    | false => rw [hx hp, List.nil_append]; rfl

theorem filter_leaves_of_hasText {v : Value} (h : v.hasText = false) :
    v.leaves.filter (!·.isEmpty) = [] :=
  List.filter_eq_nil_iff.mpr (List.any_eq_false.mp h)

theorem leaves_removeEmpty_array {items : List Value}
    (h : ∀ v ∈ items, v.hasText = true → v.removeEmpty.leaves = v.leaves.filter (!·.isEmpty)) :
    (array items).removeEmpty.leaves = (array items).leaves.filter (!·.isEmpty) := by
  rw [removeEmpty_array, leaves, leaves, leavesOfItems_eq_flatMap, leavesOfItems_eq_flatMap,
    List.flatMap_map, List.filter_flatMap,
    ← flatMap_filter_of_nil items fun v _ => filter_leaves_of_hasText]
  exact List.flatMap_congr fun v hv => h v (List.mem_filter.mp hv).1 (List.mem_filter.mp hv).2

theorem leaves_removeEmpty_hash {fields : Hash}
    (h : ∀ field ∈ fields, field.2.hasText = true →
      field.2.removeEmpty.leaves = field.2.leaves.filter (!·.isEmpty)) :
    (hash fields).removeEmpty.leaves = (hash fields).leaves.filter (!·.isEmpty) := by
  rw [removeEmpty_hash, leaves, leaves, leavesOfFields_eq_flatMap, leavesOfFields_eq_flatMap,
    List.flatMap_map, List.filter_flatMap,
    ← flatMap_filter_of_nil fields fun field _ => filter_leaves_of_hasText]
  exact List.flatMap_congr fun field hfield =>
    h field (List.mem_filter.mp hfield).1 (List.mem_filter.mp hfield).2

/-- The texts in the tree stay as they are. -/
theorem leaves_removeEmpty {v : Value} (htext : v.hasText = true) :
    v.removeEmpty.leaves = v.leaves.filter (!·.isEmpty) := by
  induction v using induct with
  | string s => simp_all [removeEmpty, leaves, hasText]
  | array items ih => exact leaves_removeEmpty_array ih
  | hash fields ih => exact leaves_removeEmpty_hash ih

theorem pruned_removeEmpty (v : Value) : v.removeEmpty.Pruned := by
  induction v using induct with
  | string s =>
    intro w hw
    rw [removeEmpty, inner] at hw
    cases hw
  | array items ih =>
    intro w hw
    rw [removeEmpty_array, inner, innerItems_eq_flatMap, List.flatMap_map] at hw
    obtain ⟨v, hv, hw⟩ := List.mem_flatMap.mp hw
    obtain ⟨hmem, htext⟩ := List.mem_filter.mp hv
    rcases List.mem_cons.mp hw with rfl | hw
    · rw [isEmpty_removeEmpty, htext, Bool.not_true]
    · exact ih v hmem w hw
  | hash fields ih =>
    intro w hw
    rw [removeEmpty_hash, inner, innerFields_eq_flatMap, List.flatMap_map] at hw
    obtain ⟨field, hfield, hw⟩ := List.mem_flatMap.mp hw
    obtain ⟨hmem, htext⟩ := List.mem_filter.mp hfield
    rcases List.mem_cons.mp hw with rfl | hw
    · rw [isEmpty_removeEmpty, htext, Bool.not_true]
    · exact ih field hmem w hw

/-- Where nothing is empty nothing is removed. -/
theorem removeEmpty_of_pruned {v : Value} (h : v.Pruned) : v.removeEmpty = v := by
  have hkept {w : Value} (hsame : w.removeEmpty = w) (hw : w.isEmpty = false) :
      w.hasText = true := by
    rwa [← hsame, isEmpty_removeEmpty, Bool.not_eq_false'] at hw
  induction v using induct with
  | string s => rw [removeEmpty]
  | array items ih =>
    rw [Pruned, inner, innerItems_eq_flatMap, List.forall_mem_flatMap] at h
    have hsame : ∀ v ∈ items, v.removeEmpty = v := fun v hv =>
      ih v hv (List.forall_mem_cons.mp (h v hv)).2
    have hall : items.filter hasText = items := List.filter_eq_self.mpr fun v hv =>
      hkept (hsame v hv) (List.forall_mem_cons.mp (h v hv)).1
    rw [removeEmpty_array, hall, List.map_congr_left hsame, List.map_id']
  | hash fields ih =>
    rw [Pruned, inner, innerFields_eq_flatMap, List.forall_mem_flatMap] at h
    have hsame : ∀ field ∈ fields, field.2.removeEmpty = field.2 := fun field hfield =>
      ih field hfield (List.forall_mem_cons.mp (h field hfield)).2
    have hall : fields.filter (·.2.hasText) = fields := List.filter_eq_self.mpr fun field hfield =>
      hkept (hsame field hfield) (List.forall_mem_cons.mp (h field hfield)).1
    have hfields : ∀ field ∈ fields, (field.1, field.2.removeEmpty) = field :=
      fun field hfield => Prod.ext rfl (hsame field hfield)
    rw [removeEmpty_hash, hall, List.map_congr_left hfields, List.map_id']

end Value

namespace Hash

open Value

theorem hash_removeEmpty (h : Hash) : Value.hash h.removeEmpty = (Value.hash h).removeEmpty := by
  rw [Value.removeEmpty, removeEmpty]

/-- After the empty values have been removed nothing is empty at any depth, the texts are the same
in the same order, and there is nothing left to remove. Nothing else is changed: a field, and an
item of an array, goes just if it holds no text, and what stays does so in order. -/
theorem removeEmpty_exact (h : Hash) :
    (∀ v ∈ (Value.hash h.removeEmpty).inner, v.isEmpty = false) ∧
    (Value.hash h.removeEmpty).leaves = (Value.hash h).leaves.filter (!·.isEmpty) ∧
    h.removeEmpty.removeEmpty = h.removeEmpty ∧
    h.removeEmpty =
      (h.filter (·.2.hasText)).map (fun field => (field.1, field.2.removeEmpty)) ∧
    ∀ items : List Value,
      (Value.array items).removeEmpty = .array ((items.filter hasText).map Value.removeEmpty) := by
  have hpruned : (Value.hash h.removeEmpty).Pruned :=
    hash_removeEmpty h ▸ pruned_removeEmpty (.hash h)
  refine ⟨hpruned, ?_, ?_, ?_, removeEmpty_array⟩
  · rw [hash_removeEmpty]
    exact leaves_removeEmpty_hash fun _ _ => leaves_removeEmpty
  · have hsame := removeEmpty_of_pruned hpruned
    rw [← hash_removeEmpty] at hsame
    exact Value.hash.inj hsame
  · exact Value.hash.inj ((hash_removeEmpty h).trans (removeEmpty_hash h))

/-- A hash that holds nothing but empty values goes with them. -/
example :
    removeEmpty [("a", .hash [("b", .array [.string "", .hash []]), ("c", .string "")]),
        ("d", .array [.array [], .string "x"])] =
      [("d", .array [.string "x"])] := by
  decide

end Hash

end RecordFix
