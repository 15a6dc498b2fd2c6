import RecordFix.Fix.Builtin
import RecordFix.Proofs.Path.Replacing

/-!
# Renaming fields

Renaming changes the names of fields at every depth. Where fields of one hash get the same name, the
value of the last of them takes the place of the others, and what was in these is lost
(`Strings.lostByRename`). All other strings are left (`Builtin.leaves_rename`).
-/

namespace RecordFix

namespace Entries

variable {α : Type}

/-- The last entry of each name. -/
def latest : List (String × α) → Entries α
  | [] => []
  | e :: rest => if has rest e.1 then latest rest else e :: latest rest

theorem put_perm {es : Entries α} (h : es.Unique) (name : String) (v : α) :
    (put es name v).Perm ((name, v) :: erase es name) := by
  induction es with
  | nil => exact List.Perm.refl _
  | cons e rest ih =>
    obtain ⟨n, w⟩ := e
    have hnodup : n ∉ names rest ∧ (names rest).Nodup := List.nodup_cons.mp h
    rw [put, erase_cons]
    by_cases hn : n = name
    · rw [if_pos hn, if_pos hn, ← hn,
        erase_of_get?_eq_none (get?_eq_none_iff.mpr hnodup.1)]
    · rw [if_neg hn, if_neg hn]
      exact ((ih hnodup.2).cons (n, w)).trans (List.Perm.swap (name, v) (n, w) _)

/-- What has been put is left unless its name is put again. -/
theorem foldl_put_perm {acc : Entries α} (h : acc.Unique) (es : List (String × α)) :
    (es.foldl (fun acc e => put acc e.1 e.2) acc).Perm
      ((acc.filter fun e => !has es e.1) ++ latest es) := by
  induction es generalizing acc with
  | nil => simp [latest, has]
  | cons e rest ih =>
    obtain ⟨name, v⟩ := e
    have hleft : (acc.filter fun e => !has ((name, v) :: rest) e.1) =
        (erase acc name).filter fun e => !has rest e.1 := by
      rw [erase, List.filter_filter]
      refine List.filter_congr fun e _ => ?_
      rw [has, List.any_cons, Bool.not_or, Bool.and_comm, bne, BEq.comm, has]
    have hput : ((put acc name v).filter fun e => !has rest e.1).Perm
        (((name, v) :: erase acc name).filter fun e => !has rest e.1) :=
      (put_perm h name v).filter _
    rw [List.foldl_cons, hleft]
    refine (ih (h.put name v)).trans ((hput.append_right _).trans ?_)
    rw [latest]
    by_cases hagain : has rest name = true
    · simp [hagain]
    · simpa [hagain] using List.perm_middle.symm

/-- Of a list with names that come again the last entry of each name is left. -/
theorem ofList_perm_latest (es : List (String × α)) : (ofList es).Perm (latest es) :=
  have hnil : Unique ([] : Entries α) := List.nodup_nil
  foldl_put_perm hnil es

end Entries

namespace Strings

open Value

mutual

/-- The strings that are lost by renaming: those below a field that gets the name of a later one. -/
def lostByRename (f : String → String) : Value → List String
  | .string _ => []
  | .array items => lostByRenameItems f items
  | .hash fields => lostByRenameFields f fields

/-- The strings that are lost in items. -/
def lostByRenameItems (f : String → String) : List Value → List String
  | [] => []
  | v :: rest => lostByRename f v ++ lostByRenameItems f rest

/-- The strings that are lost in fields. -/
def lostByRenameFields (f : String → String) : List (String × Value) → List String
  | [] => []
  | (name, v) :: rest =>
    (if rest.any fun field => f field.1 == f name then v.leaves else lostByRename f v) ++
      lostByRenameFields f rest

end

variable {f : String → String}

theorem has_renameFields (fields : Hash) (name : String) :
    Entries.has (renameFields f fields) name = fields.any fun field => f field.1 == name := by
  induction fields with
  | nil => rfl
  | cons field rest ih => rw [renameFields, Entries.has, List.any_cons, ← Entries.has, ih]; rfl

theorem parts_renameItems {items : List Value}
    (h : ∀ v ∈ items, Parts v.leaves (rename f v).leaves (lostByRename f v)) :
    Parts (leavesOfItems items) (leavesOfItems (renameItems f items))
      (lostByRenameItems f items) := by
  induction items with
  | nil => exact Parts.refl []
  | cons v rest ih =>
    obtain ⟨hv, hrest⟩ := List.forall_mem_cons.mp h
    exact hv.append (ih hrest)

theorem parts_renameFields {fields : Hash}
    (h : ∀ field ∈ fields,
      Parts field.2.leaves (rename f field.2).leaves (lostByRename f field.2)) :
    Parts (leavesOfFields fields) (leavesOfFields (Entries.latest (renameFields f fields)))
      (lostByRenameFields f fields) := by
  induction fields with
  | nil => exact Parts.refl []
  | cons field rest ih =>
    obtain ⟨name, v⟩ := field
    obtain ⟨hv, hrest⟩ := List.forall_mem_cons.mp h
    rw [renameFields, Entries.latest, has_renameFields, lostByRenameFields]
    by_cases hagain : (rest.any fun field => f field.1 == f name) = true
    · rw [if_pos hagain, if_pos hagain]
      exact (ih hrest).lose v.leaves
    · rw [if_neg hagain, if_neg hagain]
      exact hv.append (ih hrest)

/-- Strings that renaming does not leave are lost below fields that get the name of a later one. -/
theorem parts_rename (f : String → String) (v : Value) :
    Parts v.leaves (rename f v).leaves (lostByRename f v) := by
  induction v using Value.induct with
  | string s => exact Parts.refl [s]
  | array items ih => exact parts_renameItems ih
  | hash fields ih =>
    have hlatest : (leavesOfFields (Entries.ofList (renameFields f fields))).Perm
        (leavesOfFields (Entries.latest (renameFields f fields))) := by
      rw [leavesOfFields_eq_flatMap, leavesOfFields_eq_flatMap]
      exact (Entries.ofList_perm_latest _).flatMap_right _
    exact (parts_renameFields ih).trans (hlatest.symm.append_right _)

end Strings

namespace Builtin

open Value

/-- Renames the fields in all that a path leads to. -/
def renameAt (f : String → String) (path : String) (s : State) : Edited State :=
  if path = wholeRecord then s.editFields fun fields => ⟨Strings.renameHash f fields, none⟩
  else s.replace path fun v => .ok (Strings.rename f v)

/-- The values in which fields are renamed. -/
def renamed (record : Record) (path : String) : List Value :=
  if path = wholeRecord then [.hash record.fields]
  else addressed (Path.ofString path) (.hash record.fields)

theorem outcome_rename (options : Options) (s : State) (path search replacement : String) :
    rename.outcome [path, search, replacement] options s =
      (Arguments.pattern search).map fun pattern =>
        renameAt (pattern.replaceAll (Template.ofReplacement replacement)) path s := by
  have hread : rename.outcome [path, search, replacement] options s = (do
      let pattern ← Arguments.pattern search
      let f := pattern.replaceAll (Template.ofReplacement replacement)
      if path = wholeRecord then
        pure (s.editFields fun fields => ⟨Strings.renameHash f fields, none⟩)
      else pure (s.replace path fun v => .ok (Strings.rename f v))) := rfl
  rw [hread]
  cases Arguments.pattern search with
  | error e => rfl
  | ok pattern =>
    rw [Except.map, renameAt]
    by_cases hpath : path = wholeRecord
    · simp only [hpath, if_true]
      rfl
    · simp only [hpath, if_false]
      rfl

/-- Renaming goes through, and strings are lost only in the values whose fields are renamed. -/
theorem parts_renameAt (f : String → String) (path : String) (s : State) :
    ∃ fields : Hash,
      renameAt f path s = ⟨{ s with record := { s.record with fields } }, none⟩ ∧
        Parts (Value.hash s.record.fields).leaves (Value.hash fields).leaves
          ((renamed s.record path).flatMap (Strings.lostByRename f)) := by
  unfold renameAt renamed
  by_cases hpath : path = wholeRecord
  · simp only [if_pos hpath, List.flatMap_singleton]
    exact ⟨_, rfl, Strings.parts_rename f (.hash s.record.fields)⟩
  · simp only [if_neg hpath]
    obtain ⟨fields, hreplace, hreplaced⟩ := s.replace_eq_replaceAlong path
      (f := fun v => .ok (Strings.rename f v)) fun _ _ => rfl
    refine ⟨fields, hreplace, ?_⟩
    rw [← hreplaced]
    exact parts_replaceAlong (Strings.parts_rename f) _ _

/-- Renaming goes through if the text to search is a regular expression, and else changes nothing.
The strings of the record are those that are left and those that are lost where fields of one hash
get the same name. So all strings are left just if none is lost in this way. -/
theorem leaves_rename (options : Options) (s : State) (path search replacement : String) :
    match Arguments.pattern search with
    | .error e => rename.apply [path, search, replacement] options s = ⟨s, some e⟩
    | .ok pattern =>
      let f := pattern.replaceAll (Template.ofReplacement replacement)
      let lost := (renamed s.record path).flatMap (Strings.lostByRename f)
      ∃ fields : Hash,
        rename.apply [path, search, replacement] options s =
          ⟨{ s with record := { s.record with fields } }, none⟩ ∧
        Parts (Value.hash s.record.fields).leaves (Value.hash fields).leaves lost ∧
        ((Value.hash s.record.fields).leaves.Perm (Value.hash fields).leaves ↔ lost = []) := by
  rw [apply, outcome_rename]
  cases Arguments.pattern search with
  | error e => rfl
  | ok pattern =>
    obtain ⟨fields, hrenamed, hparts⟩ :=
      parts_renameAt (pattern.replaceAll (Template.ofReplacement replacement)) path s
    exact ⟨fields, hrenamed, hparts, hparts.perm_iff⟩

/-- Of two fields that get the same name the first is lost with its string. -/
theorem leaf_lost_in_renaming :
    let s : State := ⟨{}, .ofFields [("ab", .string "x"), ("ac", .string "y")]⟩
    let renamed := rename.apply [wholeRecord, "a.", "z"] [] s
    renamed.error = none ∧ renamed.value.record.fields = [("z", .string "y")] ∧
      ¬ (Value.hash s.record.fields).leaves.Perm
        (Value.hash renamed.value.record.fields).leaves := by
  decide +kernel

end Builtin

end RecordFix
