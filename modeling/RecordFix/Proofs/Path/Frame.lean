import RecordFix.Proofs.Path.Errors

/-!
# What an edit along a path leaves alone

An edit along a path works on the fields that the first segment names and on the one that is called
like the segment. All other fields keep their values and the fields their order. Writing and copying
take no field away and may add the one that is called like the segment, as the last
(`Hash.WrittenAt`); removing and editing in place may take away fields that the segment names and
add none (`Hash.ReducedAt`). None of this depends on whether the edit comes to its end
(`Hash.edits_framed`).
-/

namespace RecordFix

/-- The segment is about the field: it names it as a pattern, or the field is called like it. -/
def Path.IsAbout (segment name : String) : Prop :=
  (FieldPattern.ofString segment).holds name = true ∨ name = segment

namespace Hash

/-- The fields that the segment is not about have the values they had, if any. -/
def SameBeside (segment : String) (before after : Hash) : Prop :=
  ∀ name, ¬ Path.IsAbout segment name → Entries.get? after name = Entries.get? before name

/-- What writing behind a segment does to the fields: those that the segment is not about keep their
values, and one may be added at the end, which is called like the segment. -/
structure WrittenAt (segment : String) (before after : Hash) : Prop where
  beside : SameBeside segment before after
  names : Entries.names after = Entries.names before ∨
    segment ∉ Entries.names before ∧ Entries.names after = Entries.names before ++ [segment]

/-- What removing behind a segment does to the fields: those that the segment is not about keep
their values, and those that are left keep their order. -/
structure ReducedAt (segment : String) (before after : Hash) : Prop where
  beside : SameBeside segment before after
  names : (Entries.names after).Sublist (Entries.names before)

variable {segment : String} {before middle after : Hash}

theorem WrittenAt.refl (segment : String) (h : Hash) : WrittenAt segment h h :=
  ⟨fun _ _ => rfl, .inl rfl⟩

theorem WrittenAt.trans (h : WrittenAt segment before middle)
    (h' : WrittenAt segment middle after) : WrittenAt segment before after := by
  refine ⟨fun name hname => (h'.beside name hname).trans (h.beside name hname), ?_⟩
  rcases h.names with hsame | ⟨hnew, hlast⟩
  · rw [← hsame]
    exact h'.names
  · -- the field is there after the first edit, so the second one does not add it again
    rcases h'.names with hsame' | ⟨hnew', -⟩
    · exact .inr ⟨hnew, hsame'.trans hlast⟩
    · exact absurd (hlast ▸ List.mem_append_right _ (List.mem_singleton_self _)) hnew'

theorem writtenAt_put (segment : String) (h : Hash) (v : Value) :
    WrittenAt segment h (Entries.put h segment v) :=
  ⟨fun _ hname => Entries.get?_put_of_ne (fun heq => hname (.inr heq)) h v,
    Entries.names_put h segment v⟩

/-! ## Fields one by one -/

/-- The same fields one by one, but for those that the pattern names: they may have other values or
be gone. -/
inductive EditedBy (p : FieldPattern) : Hash → Hash → Prop
  | nil : EditedBy p [] []
  | kept {before after : Hash} (field : String × Value) (h : EditedBy p before after) :
      EditedBy p (field :: before) (field :: after)
  | changed {before after : Hash} {name : String} (v w : Value) (hp : p.holds name = true)
      (h : EditedBy p before after) : EditedBy p ((name, v) :: before) ((name, w) :: after)
  | gone {before after : Hash} {name : String} (v : Value) (hp : p.holds name = true)
      (h : EditedBy p before after) : EditedBy p ((name, v) :: before) after

variable {p : FieldPattern}

theorem EditedBy.refl (h : Hash) : EditedBy p h h := by
  induction h with
  | nil => exact .nil
  | cons field rest ih => exact .kept field ih

theorem EditedBy.sublist (h : EditedBy p before after) :
    (Entries.names after).Sublist (Entries.names before) := by
  induction h with
  | nil => exact .slnil
  | kept field _ ih => exact ih.cons_cons _
  | changed v w _ _ ih => exact ih.cons_cons _
  | gone v _ _ ih => exact ih.cons _

theorem EditedBy.get? (h : EditedBy p before after) {name : String}
    (hname : p.holds name ≠ true) : Entries.get? after name = Entries.get? before name := by
  induction h with
  | nil => rfl
  | kept field _ ih => rw [Entries.get?_cons, Entries.get?_cons, ih]
  | @changed _ _ other v w hp _ ih =>
    have hne : other ≠ name := fun heq => hname (heq ▸ hp)
    rw [Entries.get?_cons, Entries.get?_cons, if_neg hne, if_neg hne, ih]
  | @gone _ _ other v hp _ ih =>
    have hne : other ≠ name := fun heq => hname (heq ▸ hp)
    rw [Entries.get?_cons, if_neg hne, ih]

theorem EditedBy.sameBeside (h : EditedBy (.ofString segment) before after) :
    SameBeside segment before after :=
  fun _ hname => h.get? fun hp => hname (.inl hp)

theorem EditedBy.reducedAt (h : EditedBy (.ofString segment) before after) :
    ReducedAt segment before after :=
  ⟨h.sameBeside, h.sublist⟩

end Hash

namespace Value

open Hash

theorem editedBy_editFields (p : FieldPattern) (edit : Value → Edited Value) (fields : Hash) :
    EditedBy p fields (editFields p edit fields).value := by
  induction fields with
  | nil => exact .nil
  | cons field rest ih =>
    obtain ⟨name, v⟩ := field
    unfold editFields
    split
    · next hp =>
      dsimp only
      split
      · exact .changed v _ hp (.refl rest)
      · exact .changed v _ hp ih
    · exact .kept _ ih

theorem names_editFields (p : FieldPattern) (edit : Value → Edited Value) (fields : Hash) :
    Entries.names (editFields p edit fields).value = Entries.names fields := by
  induction fields with
  | nil => rfl
  | cons field rest ih =>
    obtain ⟨name, v⟩ := field
    unfold editFields
    split
    · dsimp only
      split
      · rfl
      · exact congrArg (name :: ·) ih
    · exact congrArg (name :: ·) ih

theorem editedBy_mapFields (p : FieldPattern) (f : Value → Value) (fields : Hash) :
    EditedBy p fields (mapFields p f fields) := by
  induction fields with
  | nil => exact .nil
  | cons field rest ih =>
    obtain ⟨name, v⟩ := field
    rw [mapFields, List.map_cons]
    dsimp only
    split
    · next hp => exact .changed v _ hp ih
    · exact .kept _ ih

theorem editedBy_visitFields {σ : Type} (p : FieldPattern)
    (visit : Value → σ → Edited (Option Value × σ)) (fields : Hash) (s : σ) :
    EditedBy p fields (visitFields p visit fields s).value.1 := by
  induction fields generalizing s with
  | nil => exact .nil
  | cons field rest ih =>
    obtain ⟨name, v⟩ := field
    -- what is put in the place of the value, in front of whatever follows
    have hplace (hp : p.holds name = true) {others : Hash} (h : EditedBy p rest others) :
        EditedBy p ((name, v) :: rest)
          ((visit v s).value.1.toList.map (name, ·) ++ others) := by
      cases (visit v s).value.1 with
      | none => exact .gone v hp h
      | some w => exact .changed v w hp h
    unfold visitFields
    split
    · next hp =>
      dsimp only
      split
      · exact hplace hp (.refl rest)
      · exact hplace hp (ih _)
    · exact .kept _ (ih s)

end Value

namespace Hash

theorem editedBy_remove (h : Hash) (segment : String) :
    EditedBy (.ofString segment) h (h.remove segment) := by
  unfold remove
  induction h with
  | nil => exact .nil
  | cons field rest ih =>
    obtain ⟨name, v⟩ := field
    rw [List.filter_cons]
    split
    · exact .kept _ ih
    · next hp => exact .gone v (by simpa using hp) ih

/-! ## Writing and copying -/

theorem writtenAt_append (h : Hash) (segment : String) (v : Value) :
    WrittenAt segment h (h.append segment v) := by
  unfold append add
  split
  · exact writtenAt_put _ _ _
  · split <;> exact writtenAt_put _ _ _

theorem writtenAt_insertFields (segment : String) (tail : Path) (next : Value → Edited Value)
    (h : Hash) : WrittenAt segment h (Value.insertFields segment tail next h).value := by
  unfold Value.insertFields
  split
  · exact ⟨(Value.editedBy_editFields _ next h).sameBeside, .inl (Value.names_editFields _ next h)⟩
  · split
    · exact .refl _ _
    · exact writtenAt_put _ _ _

theorem writtenAt_insert (mode : WriteMode) (segment : String) (rest : Path) (v : Value)
    (h : Hash) : WrittenAt segment h (h.insert mode (segment :: rest) v).value := by
  cases rest with
  | nil =>
    cases mode with
    | replace => exact writtenAt_put _ _ _
    | append => exact writtenAt_append _ _ _
  | cons next rest => exact writtenAt_insertFields _ _ _ _

theorem writtenAt_copyInside (segment next : String) (tail : Path) (source target : Hash) :
    WrittenAt segment target (copyInside segment next tail source target).value := by
  fun_induction copyInside with
  | case1 source inner hfound ih => exact ih
  | case2 source text hfound => exact writtenAt_insert .append _ _ _ _
  | case3 => exact .refl _ _

theorem writtenAt_copyValue (segment : String) (rest : Path) (v : Value) (target : Hash) :
    WrittenAt segment target (copyValue (segment :: rest) v target).value := by
  cases v with
  | string s => exact writtenAt_insert .append _ _ _ _
  | array items => exact .refl _ _
  | hash source =>
    cases rest with
    | nil => exact writtenAt_append _ _ _
    | cons next tail => exact writtenAt_copyInside _ _ _ _ _

/-- Each value is copied to what the copies before it have left. -/
theorem writtenAt_copyValues (segment : String) (rest : Path) (values : List Value)
    (target : Hash) :
    WrittenAt segment target (copyValues (segment :: rest) values target).value := by
  induction values generalizing target with
  | nil => exact .refl _ _
  | cons v more ih =>
    have hfirst := writtenAt_copyValue segment rest v target
    exact Edited.andThen_elim (P := fun e => WrittenAt segment target e.value)
      (fun _ => hfirst.trans (ih _)) fun _ _ => hfirst

theorem writtenAt_copyFound (segment : String) (rest : Path) (found : Option Value)
    (target : Hash) :
    WrittenAt segment target (target.copyFound found (segment :: rest)).value := by
  cases found with
  | none => exact .refl _ _
  | some v => exact writtenAt_copyValues _ _ _ _

/-! ## Removing and editing in place -/

theorem reducedAt_removePath (h : Hash) (segment : String) (rest : Path) :
    ReducedAt segment h (h.removePath (segment :: rest)) := by
  cases rest with
  | nil => exact (editedBy_remove h segment).reducedAt
  | cons next tail => exact (Value.editedBy_mapFields _ _ h).reducedAt

theorem reducedAt_transformWith {σ : Type} (h : Hash) (segment : String) (rest : Path)
    (f : Editor σ) (s : σ) : ReducedAt segment h (h.transformWith (segment :: rest) f s).value.1 :=
  (Value.editedBy_visitFields _ _ h s).reducedAt

/-- Edits along a path keep to the fields that the first segment is about and leave the fields in
their order, however far they come. Writing and copying lose no field and may add the one that is
called like the segment, as the last; removing and editing in place add none. -/
theorem edits_framed (h : Hash) (segment : String) (rest : Path) :
    (∀ v, WrittenAt segment h (h.setPath (segment :: rest) v).value) ∧
      (∀ v, WrittenAt segment h (h.appendPath (segment :: rest) v).value) ∧
      (∀ source, WrittenAt segment h (h.copyPath source (segment :: rest)).value) ∧
      ReducedAt segment h (h.removePath (segment :: rest)) ∧
      ∀ (σ : Type) (f : Editor σ) (s : σ),
        ReducedAt segment h (h.transformWith (segment :: rest) f s).value.1 :=
  ⟨fun v => writtenAt_insert .replace segment rest v h,
    fun v => writtenAt_insert .append segment rest v h,
    fun source => writtenAt_copyFound segment rest (h.findPath source) h,
    reducedAt_removePath h segment rest,
    fun _ f s => reducedAt_transformWith h segment rest f s⟩

end Hash

end RecordFix
