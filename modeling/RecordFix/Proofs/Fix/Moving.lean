import RecordFix.Fix.Builtin
import RecordFix.Proofs.Glob.Grammar
import RecordFix.Proofs.Path.Appending
import RecordFix.Proofs.Path.Copying
import RecordFix.Proofs.Path.Direct

/-!
# Moving a field

Moving adds the items of one field to another field, one after the other, and takes the first field
away. Arrays among the items are not added, so the leaves below them are gone with the field. Every
other leaf stays a leaf, as often as it was one (`Builtin.leaves_moveField`).
-/

namespace RecordFix

namespace Value

/-- The arrays among the items of a value. -/
def arrays (v : Value) : List Value := v.toList.filter (·.kind = .array)

variable {fields : Hash} {name : String}

/-! ## Counting leaves -/

theorem count_flatMap_filter {α : Type} (p : α → Bool) (leavesOf : α → List String) (xs : List α)
    (text : String) :
    (xs.flatMap leavesOf).count text = ((xs.filter p).flatMap leavesOf).count text +
      ((xs.filter fun x => !p x).flatMap leavesOf).count text := by
  rw [← List.count_append, ← List.flatMap_append]
  exact ((List.filter_append_perm p xs).symm.flatMap_right leavesOf).count_eq text

theorem count_put (fields : Hash) (name : String) (v : Value) (text : String) :
    (leavesOfFields (Entries.put fields name v)).count text +
        (leavesOfItems (Entries.get? fields name).toList).count text =
      (leavesOfFields fields).count text + v.leaves.count text := by
  induction fields with
  | nil => simp [Entries.put, leavesOfFields, leavesOfItems]
  | cons field rest ih =>
    obtain ⟨other, held⟩ := field
    rw [Entries.put, Entries.get?_cons]
    by_cases hother : other = name
    · simp only [if_pos hother, leavesOfFields, leavesOfItems, Option.toList_some,
        List.count_append, List.count_nil]
      omega
    · simp only [if_neg hother, leavesOfFields, List.count_append]
      omega

theorem count_add (fields : Hash) (name : String) (v : Value) (text : String) :
    (leavesOfFields (Hash.add fields name v)).count text =
      (leavesOfFields fields).count text + v.leaves.count text := by
  unfold Hash.add
  cases hheld : Entries.get? fields name with
  | none =>
    have hput := count_put fields name v text
    simpa [hheld, leavesOfItems] using hput
  | some held =>
    have hput := count_put fields name (.array (held.toList ++ v.toList)) text
    simp only [hheld, leaves, leavesOfItems_append, leavesOfItems_toList, Option.toList_some,
      leavesOfItems, List.count_append, List.count_nil] at hput
    simp only
    omega

theorem count_append (fields : Hash) (name : String) (v : Value) (text : String) :
    (leavesOfFields (Hash.append fields name v)).count text =
      (leavesOfFields fields).count text + v.leaves.count text := by
  unfold Hash.append
  split
  · next hnew =>
    have hnone : Entries.get? fields name = none := by
      rw [Bool.and_eq_true, Entries.has_eq_isSome_get?, Bool.not_eq_true'] at hnew
      exact Option.isNone_iff_eq_none.mp (Option.isSome_eq_false_iff.mp hnew.2)
    have hput := count_put fields name (.array v.toList) text
    simpa [hnone, leaves, leavesOfItems, leavesOfItems_toList] using hput
  · exact count_add fields name v text

end Value

namespace Hash

open Value

variable {pattern name : String}

theorem count_remove (h : Hash) (pattern text : String) :
    (leavesOfFields h).count text = (leavesOfFields (h.remove pattern)).count text +
      (leavesOfItems ((h.matching pattern).map (·.2))).count text := by
  have hsplit := count_flatMap_filter (fun field => (FieldPattern.ofString pattern).holds field.1)
    (fun field : String × Value => field.2.leaves) h text
  rw [leavesOfItems_eq_flatMap, List.flatMap_map, leavesOfFields_eq_flatMap,
    leavesOfFields_eq_flatMap]
  exact hsplit.trans (Nat.add_comm _ _)

/-- What is put in a field that a pattern does not name is not among the fields that it names. -/
theorem matching_put (hname : (FieldPattern.ofString pattern).holds name = false) (h : Hash)
    (v : Value) : matching (Entries.put h name v) pattern = h.matching pattern := by
  unfold matching
  induction h with
  | nil => simp [Entries.put, hname]
  | cons field rest ih =>
    obtain ⟨other, held⟩ := field
    rw [Entries.put]
    split
    · next hother => simp [hother, hname]
    · rw [List.filter_cons, List.filter_cons, ih]

theorem matching_append (hname : (FieldPattern.ofString pattern).holds name = false) (h : Hash)
    (v : Value) : (h.append name v).matching pattern = h.matching pattern := by
  unfold append add
  split
  · exact matching_put hname h _
  · split <;> exact matching_put hname h _

/-! ## Copying to a field -/

/-- Copying to a field adds the leaves of the items that are no arrays, and goes through. -/
theorem copyValues_field (hname : (FieldPattern.ofString pattern).holds name = false)
    (items : List Value) (target : Hash) :
    ∃ copied, copyValues [name] items target = ⟨copied, none⟩ ∧
      copied.matching pattern = target.matching pattern ∧
      ∀ text, (leavesOfFields copied).count text = (leavesOfFields target).count text +
        (leavesOfItems (items.filter fun v => !decide (v.kind = .array))).count text := by
  induction items generalizing target with
  | nil => exact ⟨target, rfl, rfl, fun text => by simp [leavesOfItems]⟩
  | cons v rest ih =>
    rw [copyValues, copyValue_field, Edited.andThen_of_none rfl]
    by_cases hv : v.kind = .array
    · obtain ⟨copied, hcopied, hmatching, hcount⟩ := ih target
      refine ⟨copied, ?_, hmatching, fun text => ?_⟩
      · simpa [hv] using hcopied
      · simpa [hv] using hcount text
    · obtain ⟨copied, hcopied, hmatching, hcount⟩ := ih (target.append name v)
      refine ⟨copied, ?_, hmatching.trans (matching_append hname target v), fun text => ?_⟩
      · simpa [hv] using hcopied
      · rw [hcount, count_append, List.filter_cons_of_pos (by simpa using hv), leavesOfItems,
          List.count_append]
        omega

theorem leavesOfItems_group (values : List Value) :
    leavesOfItems ((group values).toList.flatMap Value.toList) = leavesOfItems values := by
  match values with
  | [] => rfl
  | [v] => simp [group, leavesOfItems_toList, leavesOfItems]
  | v :: w :: rest => simp [group, Value.toList]

/-- The leaves of the items are those below the arrays among them and those of the others. -/
theorem count_items (found : Option Value) (text : String) :
    (leavesOfItems (found.toList.flatMap Value.toList)).count text =
      (leavesOfItems (found.toList.flatMap arrays)).count text +
        (leavesOfItems ((found.toList.flatMap Value.toList).filter
          fun v => !decide (v.kind = .array))).count text := by
  have harrays : found.toList.flatMap arrays =
      (found.toList.flatMap Value.toList).filter fun v => decide (v.kind = .array) := by
    cases found <;> simp [arrays]
  rw [harrays]
  simp only [leavesOfItems_eq_flatMap]
  exact count_flatMap_filter _ leaves _ text

end Hash

namespace Builtin

open Value

theorem apply_moveField (options : Options) (s : State) {source target : String}
    (hsource : '.' ∉ source.toList) (htarget : '.' ∉ target.toList) :
    moveField.apply [source, target] options s =
      (s.editRecord (·.copy [source] [target])).andThen
        fun s => s.editFields fun fields => ⟨fields.remove source, none⟩ := by
  have hmoved : moveField.apply [source, target] options s =
      (s.editRecord (·.copy (Path.ofString source) (Path.ofString target))).andThen
        fun s => s.editFields fun fields => ⟨fields.removePath (Path.ofString source), none⟩ := rfl
  rw [Path.ofString_of_notMem hsource, Path.ofString_of_notMem htarget] at hmoved
  simp only [Hash.removePath_singleton] at hmoved
  exact hmoved

/-- Moving a field to another one goes through. The leaves of the record are kept but for those
below arrays among the items of the field; these are lost. -/
theorem leaves_moveField (options : Options) (s : State) {source target : String}
    (hsource : '.' ∉ source.toList) (htarget : '.' ∉ target.toList)
    (hliteral : (FieldPattern.ofString source).isLiteral) (hne : source ≠ target) :
    ∃ fields : Hash,
      moveField.apply [source, target] options s =
        ⟨{ s with record := { s.record with fields } }, none⟩ ∧
      ∀ text : String,
        let before := (Value.hash s.record.fields).leaves.count text
        let after := (Value.hash fields).leaves.count text
        let lost := leavesOfItems ((s.record.fields.find source).toList.flatMap arrays)
        before ≤ after + lost.count text ∧
          (s.record.fields.hasMatch source = true → before = after + lost.count text) := by
  have hother : (FieldPattern.ofString source).holds target = false := by
    rw [FieldPattern.ofString_of_isLiteral hliteral]
    exact beq_eq_false_iff_ne.mpr hne
  let found := s.record.get source
  obtain ⟨copied, hcopied, hmatching, hcount⟩ :=
    Hash.copyValues_field hother (found.toList.flatMap Value.toList) s.record.fields
  have hcopy : s.record.copy [source] [target] =
      ⟨{ s.record with fields := copied }, none⟩ := by
    have hfound : s.record.find [source] = found := Option.bind_fun_some _
    rw [Record.copy, hfound, Hash.copyFound_eq_copyValues, hcopied]
    rfl
  refine ⟨copied.remove source, ?_, fun text => ?_⟩
  · rw [apply_moveField options s hsource htarget, State.editRecord, hcopy,
      Edited.andThen_of_none rfl]
    rfl
  · intro before after lost
    have hadded := hcount text
    have hremoved := copied.count_remove source text
    rw [hmatching] at hremoved
    by_cases hmatch : s.record.fields.hasMatch source = true
    · have hfound : found = s.record.fields.find source := if_pos hmatch
      have hitems := Hash.count_items found text
      rw [hfound, Hash.find, Hash.leavesOfItems_group] at hitems
      rw [hfound, Hash.find] at hadded
      have hbalance : before = after + lost.count text := by
        simp only [before, after, lost, leaves, Hash.find]
        omega
      exact ⟨Nat.le_of_eq hbalance, fun _ => hbalance⟩
    · have hnone : s.record.fields.matching source = [] := by
        simpa [Hash.hasMatch] using hmatch
      rw [hnone, List.map_nil, leavesOfItems, List.count_nil] at hremoved
      refine ⟨?_, fun h => absurd h hmatch⟩
      simp only [before, after, leaves]
      omega

/-- A field with an array among its items is moved to one that holds a string. -/
theorem leaves_moveField_partsSample :
    let record := Record.ofFields
      [("parts", .array [.string "a", .array [.string "b"], .hash [("c", .string "a")]]),
        ("all", .string "d")]
    let s : State := ⟨{}, record⟩
    ∃ fields : Hash,
      moveField.apply ["parts", "all"] [] s = ⟨{ s with record := .ofFields fields }, none⟩ ∧
        (Value.hash fields).leaves.count "a" = 2 ∧ (Value.hash fields).leaves.count "b" = 0 ∧
        (Value.hash fields).leaves.count "d" = 1 := by
  intro record s
  have hliteral : (FieldPattern.ofString "parts").isLiteral :=
    FieldPattern.isLiteral_of_plain (by simp)
  obtain ⟨fields, hmoved, hcount⟩ := leaves_moveField [] s
    (by decide : '.' ∉ "parts".toList) (by decide : '.' ∉ "all".toList) hliteral (by decide)
  have hunique : Entries.Unique s.record.fields := by decide
  have hmatch : s.record.fields.hasMatch "parts" = true :=
    Hash.hasMatch_of_exactAmong (FieldPattern.exactAmong_of_isLiteral hliteral _)
  have hlost : leavesOfItems ((s.record.fields.find "parts").toList.flatMap arrays) = ["b"] := by
    rw [Hash.find_of_isLiteral hunique hliteral]
    decide
  have hbefore : (Value.hash s.record.fields).leaves = ["a", "b", "a", "d"] := by decide
  have hleft (text : String) : ["a", "b", "a", "d"].count text =
      (Value.hash fields).leaves.count text + ["b"].count text := by
    rw [← hbefore, ← hlost]
    exact (hcount text).2 hmatch
  exact ⟨fields, hmoved, (hleft "a").symm, Nat.add_right_cancel (hleft "b").symm,
    (hleft "d").symm⟩

/-- The string below an array in an array is lost. -/
theorem leaf_lost_in_nested_array :
    let s : State := ⟨{}, .ofFields [("a", .array [.array [.string "x"], .string "y"])]⟩
    let moved := moveField.apply ["a", "b"] [] s
    moved.error = none ∧ "x" ∈ (Value.hash s.record.fields).leaves ∧
      "x" ∉ (Value.hash moved.value.record.fields).leaves := by
  decide +kernel

end Builtin

end RecordFix
