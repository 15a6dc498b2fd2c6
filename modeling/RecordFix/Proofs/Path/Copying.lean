import RecordFix.Record

/-!
# Copying to a field

Copying along a path whose only segment is the name of a field always succeeds. It adds the items
found that are no arrays to the field, in order, and leaves all else as it is (`Record.copy_field`).
What is found is not looked up again while the field grows, so the field may be among the sources.
-/

namespace RecordFix

namespace Hash

variable {target : Hash} {name : String}

/-- The items that are copied of what has been found: those that are no arrays. -/
def copied (found : Option Value) : List Value :=
  (found.toList.flatMap Value.toList).filter fun v => !decide (v.kind = .array)

/-- Adds values to a field one after the other. -/
def appendAll (target : Hash) (name : String) (values : List Value) : Hash :=
  values.foldl (append · name ·) target

theorem toList_of_kind {v : Value} (hv : v.kind ≠ .array) : v.toList = [v] := by
  cases v with
  | array items => exact absurd rfl hv
  | string | hash => rfl

/-! ## Adding to one field -/

theorem append_of_held {held : Value} (hheld : Entries.get? target name = some held) (v : Value) :
    target.append name v = Entries.put target name (.array (held.toList ++ v.toList)) := by
  have hhas : Entries.has target name = true := by
    rw [Entries.has_eq_isSome_get?, hheld, Option.isSome_some]
  rw [append, hhas, Bool.not_true, Bool.and_false, if_neg Bool.false_ne_true, add, hheld]

theorem append_of_absent (habsent : Entries.get? target name = none) (v : Value) :
    target.append name v = Entries.put target name
      (if arrayMarker.toList.isSuffixOf name.toList then .array v.toList else v) := by
  have hhas : Entries.has target name = false := by
    rw [Entries.has_eq_isSome_get?, habsent, Option.isSome_none]
  rw [append, hhas, Bool.not_false, Bool.and_true, add, habsent]
  split <;> rfl

theorem get?_append_of_ne {other : String} (hother : other ≠ name) (v : Value) :
    Entries.get? (target.append name v) other = Entries.get? target other := by
  unfold append add
  split
  · exact Entries.get?_put_of_ne hother target _
  · split <;> exact Entries.get?_put_of_ne hother target _

theorem get?_appendAll_of_ne {other : String} (hother : other ≠ name) (values : List Value) :
    Entries.get? (target.appendAll name values) other = Entries.get? target other := by
  unfold appendAll
  induction values generalizing target with
  | nil => rfl
  | cons v rest ih => rw [List.foldl_cons, ih, get?_append_of_ne hother]

/-- What is added to a field that exists goes behind what it holds. -/
theorem appendAll_of_held {held v : Value} {more : List Value}
    (hheld : Entries.get? target name = some held) (hv : v.kind ≠ .array)
    (hmore : ∀ w ∈ more, w.kind ≠ .array) :
    target.appendAll name (v :: more) =
      Entries.put target name (.array (held.toList ++ v :: more)) := by
  unfold appendAll
  induction more generalizing target held v with
  | nil => rw [List.foldl_cons, List.foldl_nil, append_of_held hheld, toList_of_kind hv]
  | cons w rest ih =>
    obtain ⟨hw, hrest⟩ := List.forall_mem_cons.mp hmore
    rw [List.foldl_cons, append_of_held hheld, toList_of_kind hv,
      ih (Entries.get?_put_self target name _) hw hrest, Entries.put_put, Value.toList,
      List.append_assoc, List.singleton_append]

/-- A new field holds what is added as an array, unless it is one value and the name does not ask
for an array. -/
theorem appendAll_of_absent {v : Value} {more : List Value}
    (habsent : Entries.get? target name = none) (hv : v.kind ≠ .array)
    (hmore : ∀ w ∈ more, w.kind ≠ .array) :
    target.appendAll name (v :: more) = Entries.put target name
      (if arrayMarker.toList.isSuffixOf name.toList ∨ more ≠ [] then .array (v :: more)
        else v) := by
  have hfirst : target.appendAll name (v :: more) =
      appendAll (target.append name v) name more := rfl
  rw [hfirst, append_of_absent habsent, toList_of_kind hv]
  generalize hmade :
    (if arrayMarker.toList.isSuffixOf name.toList then .array [v] else v : Value) = made
  cases more with
  | nil => simp [← hmade, appendAll]
  | cons w rest =>
    -- the second value meets what the first one has made, which is a list of one either way
    have hlist : made.toList = [v] := by
      rw [← hmade]
      split
      · rfl
      · exact toList_of_kind hv
    obtain ⟨hw, hrest⟩ := List.forall_mem_cons.mp hmore
    rw [appendAll_of_held (Entries.get?_put_self target name made) hw hrest, Entries.put_put, hlist,
      if_pos (.inr (List.cons_ne_nil w rest)), List.singleton_append]

/-! ## Copying to one field -/

theorem copyValue_field (field : String) (v : Value) (target : Hash) :
    copyValue [field] v target =
      ⟨if v.kind = .array then target else target.append field v, none⟩ := by
  cases v <;> rfl

theorem copyFound_eq_copyValues (target : Hash) (found : Option Value) (p : Path) :
    target.copyFound found p = copyValues p (found.toList.flatMap Value.toList) target := by
  cases found with
  | none => rfl
  | some v => simp [copyFound]

/-- Copying to a field goes through, and passes arrays over. -/
theorem copyFound_field (target : Hash) (found : Option Value) (name : String) :
    target.copyFound found [name] = ⟨target.appendAll name (copied found), none⟩ := by
  rw [copyFound_eq_copyValues, copied, appendAll]
  induction found.toList.flatMap Value.toList generalizing target with
  | nil => rfl
  | cons v rest ih =>
    rw [copyValues, copyValue_field, Edited.andThen_of_none rfl, ih]
    by_cases hv : v.kind = .array <;> simp [hv]

end Hash

namespace Record

open Hash

/-- Copying to a field succeeds. If nothing is copied the record stays as it is. Else a field that
exists becomes the array of what it held and what is copied, in its place, and a new field comes
last, with an array if its name has the array marker or several values are copied, and with the
value itself if it is one. No other field changes. -/
theorem copy_field (r : Record) (source : Path) {target : String} (htarget : '.' ∉ target.toList) :
    ∃ fields : Hash, r.copy source (Path.ofString target) = ⟨{ r with fields }, none⟩ ∧
      (copied (r.find source) = [] → fields = r.fields) ∧
      (∀ v more, copied (r.find source) = v :: more →
        (∀ held, Entries.get? r.fields target = some held →
          fields = Entries.put r.fields target (.array (held.toList ++ v :: more))) ∧
        (Entries.get? r.fields target = none →
          fields = r.fields ++ [(target,
            if arrayMarker.toList.isSuffixOf target.toList ∨ more ≠ [] then .array (v :: more)
            else v)])) ∧
      ∀ other, other ≠ target → Entries.get? fields other = Entries.get? r.fields other := by
  have hcopy : r.copy source (Path.ofString target) =
      ⟨{ r with fields := r.fields.appendAll target (copied (r.find source)) }, none⟩ := by
    rw [copy, Path.ofString_of_notMem htarget, copyFound_field]
    rfl
  have hkind : ∀ v ∈ copied (r.find source), v.kind ≠ .array := fun v hv => by
    simpa using (List.mem_filter.mp hv).2
  refine ⟨_, hcopy, fun hcopied => ?_, fun v more hcopied => ?_, fun other hother => ?_⟩
  · rw [hcopied]
    rfl
  · rw [hcopied] at hkind ⊢
    obtain ⟨hv, hmore⟩ := List.forall_mem_cons.mp hkind
    refine ⟨fun held hheld => appendAll_of_held hheld hv hmore, fun habsent => ?_⟩
    rw [appendAll_of_absent habsent hv hmore,
      Entries.put_of_notMem_names (Entries.get?_eq_none_iff.mp habsent)]
  · exact get?_appendAll_of_ne hother _

/-- A field to which it is copied with others is among the sources as it was before. -/
theorem copy_field_partnersSample :
    let r := Record.ofFields
      [("a1", .string "x"), ("b", .string "y"), ("a2", .array [.string "z"]),
        ("a3", .hash [("c", .string "w")])]
    r.copy ["a*"] (Path.ofString "a1") =
      ⟨.ofFields
        [("a1", .array [.string "x", .string "x", .hash [("c", .string "w")]]),
          ("b", .string "y"), ("a2", .array [.string "z"]), ("a3", .hash [("c", .string "w")])],
        none⟩ := by
  intro r
  have hcopied : copied (r.find ["a*"]) = [.string "x", .hash [("c", .string "w")]] := by
    decide +kernel
  obtain ⟨fields, hcopy, -, hsome, -⟩ :=
    copy_field r ["a*"] (by decide : '.' ∉ "a1".toList)
  have hfields := (hsome _ _ hcopied).1 (.string "x") rfl
  rw [hcopy, hfields]
  rfl

end Record

end RecordFix
