import RecordFix.Path.Find
import RecordFix.Path.Insert

/-!
# Copying along a path

Copying adds the items found in one place to what is at the end of a path. A hash that is copied to
a path of several segments is not taken as a whole: the path without its first segment is followed
inside it, and what is found there is copied in the same way. Since a hash found inside another is
the smaller of the two (`weight_find`) this comes to an end. Arrays among the items are passed over.
-/

namespace RecordFix

namespace Value

theorem weight_mem {v : Value} {items : List Value} (h : v ∈ items) :
    v.weight ≤ weightOfItems items := by
  induction h with
  | head => simp [weightOfItems]
  | tail _ _ ih => simp only [weightOfItems]; omega

theorem weight_filter (p : String × Value → Bool) (fields : Hash) :
    weightOfItems ((fields.filter p).map (·.2)) ≤ weightOfFields fields := by
  induction fields with
  | nil => simp [weightOfItems]
  | cons field rest ih =>
    simp only [List.filter_cons]
    split
    · simp only [List.map_cons, weightOfItems, weightOfFields]
      omega
    · simp only [weightOfFields]
      omega

/-- A single field that is found is lighter than the hash, and a group is no heavier. -/
theorem weight_findField {fields : Hash} {pattern : String} {v : Value}
    (h : Hash.find fields pattern = some v) :
    v.weight ≤ (Value.hash fields).weight ∧
      ((∀ items, v ≠ .array items) → v.weight < (Value.hash fields).weight) := by
  have hw := weight_filter (fun field => (FieldPattern.ofString pattern).holds field.1) fields
  simp only [Hash.find, Hash.matching] at h
  generalize ((fields.filter fun field =>
    (FieldPattern.ofString pattern).holds field.1).map (·.2)) = values at h hw
  match values, h with
  | [w], h =>
    simp only [Hash.group, Option.some.injEq] at h
    subst h
    simp only [weightOfItems] at hw
    simp only [weight]
    exact ⟨by omega, fun _ => by omega⟩
  | a :: b :: rest, h =>
    simp only [Hash.group, Option.some.injEq] at h
    subst h
    simp only [weight]
    exact ⟨by omega, fun hv => absurd rfl (hv _)⟩

theorem collect_ne_hash {values : List Value} {fields : Hash} :
    collect values ≠ some (.hash fields) := by
  unfold collect
  split <;> simp

/-- A hash found along a path is no heavier than where the path starts, and lighter if the path has
a segment. -/
theorem weight_find {p : Path} {v : Value} {inner : Hash} (h : v.find p = some (.hash inner)) :
    (Value.hash inner).weight ≤ v.weight ∧ (p ≠ [] → (Value.hash inner).weight < v.weight) := by
  induction p generalizing v with
  | nil =>
    simp only [find, Option.some.injEq] at h
    simp [h]
  | cons head tail ih =>
    suffices hlt : (Value.hash inner).weight < v.weight from ⟨Nat.le_of_lt hlt, fun _ => hlt⟩
    match v with
    | .string s => simp [find, findStep] at h
    | .hash fields =>
      simp only [find, findStep, Option.bind_eq_some_iff] at h
      obtain ⟨g, hg, hi⟩ := h
      have hgw := weight_findField hg
      have hiw := ih hi
      cases tail with
      | nil =>
        simp only [find, Option.some.injEq] at hi
        subst hi
        exact hgw.2 (by simp)
      | cons next rest => exact Nat.lt_of_lt_of_le (hiw.2 (by simp)) hgw.1
    | .array items =>
      simp only [find, findStep] at h
      split at h
      · simp at h
      · split at h
        · simp at h
        · exact absurd h collect_ne_hash
      · simp only [Option.bind_eq_some_iff] at h
        obtain ⟨w, ⟨i, -, hw⟩, hi⟩ := h
        have hm := weight_mem (List.mem_of_getElem? hw)
        have hiw := (ih hi).1
        simp only [weight] at hiw ⊢
        omega
      · exact absurd h collect_ne_hash

end Value

namespace Hash

/-- Copies a hash to a path of several segments. -/
def copyInside (head next : String) (tail : Path) (source target : Hash) : Edited Hash :=
  match _h : (Value.hash source).find (next :: tail) with
  | some (.hash inner) => copyInside head next tail inner target
  | some (.string s) => target.appendPath (head :: next :: tail) (.string s)
  | _ => ⟨target, none⟩
termination_by (Value.hash source).weight
decreasing_by exact (Value.weight_find _h).2 (by simp)

/-- Copies one value to a path. -/
def copyValue (p : Path) (v : Value) (target : Hash) : Edited Hash :=
  match v with
  | .string s => target.appendPath p (.string s)
  | .array _ => ⟨target, none⟩
  | .hash source =>
    match p with
    | [] => ⟨target, none⟩
    | [field] => ⟨target.append field (.hash source), none⟩
    | head :: next :: tail => copyInside head next tail source target

/-- Copies values to a path one after the other until that fails. -/
def copyValues (p : Path) : List Value → Hash → Edited Hash
  | [], target => ⟨target, none⟩
  | v :: rest, target => (copyValue p v target).andThen (copyValues p rest)

/-- Copies what has been found, if anything, to a path. -/
def copyFound (target : Hash) (found : Option Value) (p : Path) : Edited Hash :=
  match found with
  | none => ⟨target, none⟩
  | some v => copyValues p v.toList target

/-- Copies what is found along one path to another. -/
def copyPath (h : Hash) (source target : Path) : Edited Hash :=
  h.copyFound (h.findPath source) target

end Hash

end RecordFix
