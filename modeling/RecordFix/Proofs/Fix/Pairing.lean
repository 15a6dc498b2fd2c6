import RecordFix.Fix.Builtin
import RecordFix.Proofs.Path.ReplacingTwice

/-!
# Hashes as arrays of names and values

The array of the names and values of a hash in turn gives the hash back, since its names are
different and each value is taken as it is (`Collections.toHash_toArray`). A path leads to the
arrays that were put in the places of hashes, so turning hashes into arrays and back leaves a record
as it was (`Builtin.hash_array`).
-/

namespace RecordFix

namespace Collections

variable {fields : Hash}

/-! ## One hash -/

theorem length_toItems (fields : Hash) : (Hash.toItems fields).length = 2 * fields.length := by
  induction fields with
  | nil => rfl
  | cons field rest ih =>
    have hcons : Hash.toItems (field :: rest) =
        .string field.1 :: field.2 :: Hash.toItems rest := rfl
    rw [hcons, List.length_cons, List.length_cons, ih, List.length_cons, Nat.mul_succ]

theorem add_of_notMem_names {name : String} (h : name ∉ Entries.names fields) (v : Value) :
    fields.add name v = fields ++ [(name, v)] := by
  rw [Hash.add, Entries.get?_eq_none_iff.mpr h]
  exact Entries.put_of_notMem_names h v

/-- Pairs of new names and values are put behind the fields that are there. -/
theorem addPairs_toItems {acc : Hash} (h : Entries.Unique (acc ++ fields)) :
    addPairs acc fields.toItems = .ok (acc ++ fields) := by
  induction fields generalizing acc with
  | nil => rw [List.append_nil]; rfl
  | cons field rest ih =>
    obtain ⟨name, v⟩ := field
    have hnew : name ∉ Entries.names acc := by
      intro hmem
      rw [Entries.Unique, Entries.names, List.map_append, List.map_cons] at h
      exact (List.nodup_append.mp h).2.2 name hmem name List.mem_cons_self rfl
    have hrest : acc ++ (name, v) :: rest = acc ++ [(name, v)] ++ rest := by
      rw [List.append_assoc]
      rfl
    have hadd : addPairs acc (Hash.toItems ((name, v) :: rest)) =
        addPairs (acc.add name v) (Hash.toItems rest) := rfl
    rw [hadd, add_of_notMem_names hnew, hrest]
    exact ih (hrest ▸ h)

/-- The array of the names and values of a hash gives the hash back. -/
theorem toHash_toArray (h : fields.Unique) :
    toHash (.array (Hash.toItems fields)) = .ok (.hash fields) := by
  have heven : ¬ (Hash.toItems fields).length % 2 = 1 := by
    rw [length_toItems]
    omega
  have hpairs : addPairs [] (Hash.toItems fields) = .ok ([] ++ fields) := addPairs_toItems h
  simp only [toHash, Value.asArray, bind, Except.bind, if_neg heven, hpairs]
  rfl

/-! ## What a path leads to -/

/-- The array of names and values in the place of a hash. -/
def unfolded : Value → Value
  | .hash fields => .array (Hash.toItems fields)
  | v => v

/-- The hash in the place of an array of names and values. -/
def folded (v : Value) : Value := (toHash v).toOption.getD v

theorem toArray_eq_ok_iff {v w : Value} :
    toArray v = .ok w ↔ ∃ fields, v = .hash fields ∧ w = unfolded v := by
  cases v with
  | hash fields =>
    have hok : toArray (.hash fields) = .ok (unfolded (.hash fields)) := rfl
    rw [hok, Except.ok.injEq]
    exact ⟨fun h => ⟨fields, rfl, h.symm⟩, fun ⟨_, _, h⟩ => h.symm⟩
  | string | array => exact ⟨nofun, nofun⟩

theorem toHash_unfolded (h : fields.Unique) :
    toHash (unfolded (.hash fields)) = .ok (folded (unfolded (.hash fields))) ∧
      folded (unfolded (.hash fields)) = .hash fields := by
  have hback : toHash (unfolded (.hash fields)) = .ok (.hash fields) := toHash_toArray h
  have hfolded : folded (unfolded (.hash fields)) = .hash fields := by rw [folded, hback]; rfl
  exact ⟨hback.trans (congrArg Except.ok hfolded.symm), hfolded⟩

end Collections

namespace Builtin

open Value Collections

/-- If the values at a path are turned into arrays, turning what is at the path into hashes goes
through and leaves everything as it was before. -/
theorem hash_array (params : List String) (options others : Options) (s : State)
    (hdistinct : (Value.hash s.record.fields).Distinct)
    (hok : (array.apply params options s).error = none) :
    hash.apply params others (array.apply params options s).value = ⟨s, none⟩ := by
  cases params with
  | nil => cases hok
  | cons path more =>
    have harray : array.apply (path :: more) options s = s.replace path toArray := rfl
    have hhash (t : State) : hash.apply (path :: more) others t = t.replace path toHash := rfl
    rw [harray] at hok ⊢
    rw [hhash]
    have hplaces : ∀ v ∈ addressed (Path.ofString path) (.hash s.record.fields),
        ∃ fields, v = .hash fields := by
      intro v hv
      obtain ⟨w, hw⟩ := (s.error_replace path toArray).1.mp hok v hv
      obtain ⟨fields, hfields, -⟩ := toArray_eq_ok_iff.mp hw
      exact ⟨fields, hfields⟩
    refine s.replace_replace_of_inverse (g := unfolded) (h := folded) path ?_ ?_
    · intro v hv
      exact toArray_eq_ok_iff.mpr ((hplaces v hv).imp fun _ h => ⟨h, rfl⟩)
    · intro v hv
      obtain ⟨fields, rfl⟩ := hplaces v hv
      exact toHash_unfolded (distinct_hash.mp (distinct_of_mem_addressed hdistinct hv)).1

/-- Hashes in an array of hashes are turned into arrays and back. -/
theorem hash_array_authorsSample :
    let author : Value :=
      .hash [("name", .string "Ada"), ("at", .array [.string "a", .string "b"]), ("note", .hash [])]
    let s : State := ⟨{}, .ofFields [("authors", .array [author, .hash []]), ("id", .string "7")]⟩
    let arrays := array.apply ["authors.*"] [] s
    (Value.hash s.record.fields).Distinct ∧ arrays.error = none ∧
      hash.apply ["authors.*"] [] arrays.value = ⟨s, none⟩ := by
  intro author s arrays
  have hdistinct : (Value.hash s.record.fields).Distinct := by decide
  have hok : arrays.error = none := by decide +kernel
  exact ⟨hdistinct, hok, hash_array ["authors.*"] [] [] s hdistinct hok⟩

end Builtin

end RecordFix
