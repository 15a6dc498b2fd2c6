import RecordFix.Proofs.Path.Addressed

/-!
# Errors along a path

An error is about data unless it says that a name stands for nothing. Writing and copying along a
path fail with errors about data only (`Hash.ofData_insert`, `Record.ofData_copy`), and an edit
along a path with no others than its editor (`Hash.ofData_transform`).
-/

namespace RecordFix

variable {α β σ : Type}

/-- The error is about data: it does not say that a name stands for nothing. -/
def FixError.OfData : FixError → Prop
  | .unknownOperation _ => False
  | _ => True

/-- The edit succeeds or fails with an error about data. -/
def Edited.OfData (e : Edited α) : Prop := ∀ err, e.error = some err → err.OfData

/-- The computation gives something with a property or fails with an error about data. -/
def Gives (x : Except FixError α) (P : α → Prop) : Prop :=
  match x with
  | .ok a => P a
  | .error err => err.OfData

/-! ## Edits -/

namespace Edited

theorem ofData_of_none (a : α) : (⟨a, none⟩ : Edited α).OfData := nofun

theorem ofData_of_some (a : α) {err : FixError} (h : err.OfData) :
    (⟨a, some err⟩ : Edited α).OfData := by
  intro e he
  cases he
  exact h

theorem OfData.map {e : Edited α} (h : e.OfData) (f : α → β) : (e.map f).OfData := h

theorem OfData.andThen {e : Edited α} {next : α → Edited α} (h : e.OfData)
    (hnext : ∀ a, (next a).OfData) : (e.andThen next).OfData :=
  andThen_elim (fun _ => hnext _) fun _ _ => h

/-- An edit that goes on unless the first one fails. -/
theorem OfData.goOn {first : Edited α} {failed : FixError → β} {next : Edited β}
    (h : first.OfData) (hnext : next.OfData) :
    (match first.error with
      | some err => ⟨failed err, some err⟩
      | none => next : Edited β).OfData := by
  cases herror : first.error with
  | none => exact hnext
  | some err => exact ofData_of_some _ (h err herror)

end Edited

/-! ## Computations -/

theorem gives_pure {P : α → Prop} {a : α} (h : P a) : Gives (pure a) P := h

theorem gives_of_ok {x : Except FixError α} {P : α → Prop} (hx : Gives x fun _ => True)
    (h : ∀ a, x = .ok a → P a) : Gives x P := by
  cases x with
  | ok a => exact h a rfl
  | error err => exact hx

theorem gives_bind {x : Except FixError α} {f : α → Except FixError β} {P : β → Prop}
    {Q : α → Prop} (hx : Gives x Q) (hf : ∀ a, Q a → Gives (f a) P) : Gives (x >>= f) P := by
  cases x with
  | ok a => exact hf a hx
  | error err => exact hx

theorem gives_map {x : Except FixError α} {f : α → β} {P : β → Prop}
    (hx : Gives x fun a => P (f a)) : Gives (x.map f) P := by
  cases x with
  | ok a => exact hx
  | error err => exact hx

theorem gives_foldlM {f : β → α → Except FixError β} (hf : ∀ b a, Gives (f b a) fun _ => True)
    (as : List α) (b : β) : Gives (as.foldlM f b) fun _ => True := by
  induction as generalizing b with
  | nil => exact gives_pure trivial
  | cons a rest ih =>
    rw [List.foldlM_cons]
    exact gives_bind (hf b a) fun b' _ => ih b'

theorem gives_mapM {f : α → Except FixError β} (hf : ∀ a, Gives (f a) fun _ => True)
    (as : List α) : Gives (as.mapM f) fun _ => True := by
  induction as with
  | nil => exact gives_pure trivial
  | cons a rest ih =>
    rw [List.mapM_cons]
    exact gives_bind (hf a) fun _ _ => gives_bind ih fun _ _ => gives_pure trivial

/-! ## Values that must be of a kind -/

namespace Value

theorem gives_asString (v : Value) : Gives v.asString fun _ => True := by
  cases v <;> exact trivial

theorem gives_asArray (v : Value) : Gives v.asArray fun _ => True := by
  cases v <;> exact trivial

theorem gives_asHash (v : Value) : Gives v.asHash fun _ => True := by
  cases v <;> exact trivial

/-! ## Writing -/

variable {edit next : Value → Edited Value}

theorem ofData_editItems (hedit : ∀ v, (edit v).OfData) (items : List Value) :
    (editItems edit items).OfData := by
  induction items with
  | nil => exact Edited.ofData_of_none _
  | cons v rest ih => exact (hedit v).goOn (ih.map _)

theorem ofData_editFields (hedit : ∀ v, (edit v).OfData) (p : FieldPattern) (fields : Hash) :
    (editFields p edit fields).OfData := by
  induction fields with
  | nil => exact Edited.ofData_of_none _
  | cons field rest ih =>
    obtain ⟨name, v⟩ := field
    unfold editFields
    split
    · exact (hedit v).goOn (ih.map _)
    · exact ih.map _

theorem gives_newContainer (field : String) (tail : Path) :
    Gives (newContainer field tail) fun _ => True := by
  unfold newContainer
  split
  · exact trivial
  · exact trivial
  · split <;> exact trivial

theorem ofData_insertFields (hnext : ∀ v, (next v).OfData) (head : String) (tail : Path)
    (fields : Hash) : (insertFields head tail next fields).OfData := by
  unfold insertFields
  split
  · exact ofData_editFields hnext _ _
  · have hmade := gives_newContainer head tail
    split
    · rename_i err herr
      rw [herr] at hmade
      exact Edited.ofData_of_some _ hmade
    · exact (hnext _).map _

theorem ofData_insertItems (hnext : ∀ v, (next v).OfData) (head : String) (tail : Path)
    (items : List Value) : (insertItems head tail next items).OfData := by
  unfold insertItems
  split
  · exact (hnext _).goOn (Edited.ofData_of_none _)
  · refine ofData_editItems (fun v => ?_) items
    split
    · exact Edited.ofData_of_none _
    · exact hnext v
  · exact (ofData_insertFields hnext _ _ _).goOn (Edited.ofData_of_none _)
  · split
    · exact Edited.ofData_of_some _ trivial
    · split
      · exact Edited.ofData_of_none _
      · exact (hnext _).map _

theorem ofData_writeItem (v : Value) (segment : String) (items : List Value) :
    (writeItem v segment items).OfData := by
  unfold writeItem
  split
  · exact Edited.ofData_of_none _
  · exact Edited.ofData_of_none _
  · exact Edited.ofData_of_none _
  · split
    · exact Edited.ofData_of_some _ trivial
    · exact Edited.ofData_of_none _

theorem ofData_insert (mode : WriteMode) (v : Value) (p : Path) (target : Value) :
    (insert mode v p target).OfData := by
  induction p generalizing target with
  | nil => exact Edited.ofData_of_none _
  | cons head tail ih =>
    cases tail with
    | nil =>
      cases target with
      | string s => exact Edited.ofData_of_some _ trivial
      | hash fields => exact Edited.ofData_of_none _
      | array items => exact (ofData_writeItem v head items).map _
    | cons next rest =>
      cases target with
      | string s => exact Edited.ofData_of_some _ trivial
      | hash fields => exact (ofData_insertFields ih head (next :: rest) fields).map _
      | array items => exact (ofData_insertItems ih head (next :: rest) items).map _

end Value

namespace Hash

theorem ofData_insert (h : Hash) (mode : WriteMode) (p : Path) (v : Value) :
    (h.insert mode p v).OfData :=
  (Value.ofData_insert mode v p (.hash h)).map _

/-! ## Copying -/

theorem ofData_copyInside (head next : String) (tail : Path) (source target : Hash) :
    (copyInside head next tail source target).OfData := by
  fun_induction copyInside with
  | case1 source inner hfound ih => exact ih
  | case2 source text hfound => exact ofData_insert _ _ _ _
  | case3 => exact Edited.ofData_of_none _

theorem ofData_copyValue (p : Path) (v : Value) (target : Hash) :
    (copyValue p v target).OfData := by
  unfold copyValue
  split
  · exact ofData_insert _ _ _ _
  · exact Edited.ofData_of_none _
  · split
    · exact Edited.ofData_of_none _
    · exact Edited.ofData_of_none _
    · exact ofData_copyInside _ _ _ _ _

theorem ofData_copyValues (p : Path) (values : List Value) (target : Hash) :
    (copyValues p values target).OfData := by
  induction values generalizing target with
  | nil => exact Edited.ofData_of_none _
  | cons v rest ih => exact (ofData_copyValue p v target).andThen ih

theorem ofData_copyFound (target : Hash) (found : Option Value) (p : Path) :
    (target.copyFound found p).OfData := by
  cases found with
  | none => exact Edited.ofData_of_none _
  | some v => exact ofData_copyValues p _ target

end Hash

theorem Record.ofData_copy (r : Record) (source target : Path) : (r.copy source target).OfData :=
  (Hash.ofData_copyFound _ _ _).map _

/-! ## Editing -/

theorem Editor.feed_cons_of_ok {f : Editor σ} {v : Value} {kept : Option Value} {s t : σ}
    (hv : f v s = (.ok kept, t)) (rest : List Value) : f.feed (v :: rest) s = f.feed rest t := by
  rw [feed, Value.applyEditor, hv]
  rfl

theorem Editor.feed_cons_of_error {f : Editor σ} {v : Value} {err : FixError} {s t : σ}
    (hv : f v s = (.error err, t)) (rest : List Value) : f.feed (v :: rest) s = ⟨t, some err⟩ := by
  rw [feed, Value.applyEditor, hv]
  rfl

/-- Feeding fails with an error that the editor has given for one of the values. -/
theorem Editor.exists_error_of_feed {f : Editor σ} {vs : List Value} {s : σ} {err : FixError}
    (h : (f.feed vs s).error = some err) : ∃ v ∈ vs, ∃ t, (f v t).1 = .error err := by
  induction vs generalizing s with
  | nil => cases h
  | cons v rest ih =>
    rcases hv : f v s with ⟨e | kept, t⟩
    · rw [feed_cons_of_error hv] at h
      cases h
      exact ⟨v, List.mem_cons_self, s, congrArg Prod.fst hv⟩
    · rw [feed_cons_of_ok hv] at h
      obtain ⟨w, hw, herror⟩ := ih h
      exact ⟨w, List.mem_cons_of_mem _ hw, herror⟩

/-- Where feeding does not fail, the editor has succeeded for all values. -/
theorem Editor.exists_ok_of_feed {f : Editor σ} {vs : List Value} {s : σ}
    (h : (f.feed vs s).error = none) : ∀ v ∈ vs, ∃ t r, (f v t).1 = .ok r := by
  induction vs generalizing s with
  | nil => exact fun _ hv => absurd hv List.not_mem_nil
  | cons v rest ih =>
    rcases hv : f v s with ⟨e | kept, t⟩
    · rw [feed_cons_of_error hv] at h
      cases h
    · rw [feed_cons_of_ok hv] at h
      exact List.forall_mem_cons.mpr ⟨⟨s, kept, congrArg Prod.fst hv⟩, ih h⟩

theorem Hash.exists_error_of_transform {h : Hash} {p : Path}
    {f : Value → Except FixError (Option Value)} {err : FixError}
    (herr : (h.transform p f).error = some err) : ∃ v, f v = .error err := by
  let editor : Editor Unit := fun v s => (f v, s)
  have hfed : (editor.feed (Value.addressed p (.hash h)) ()).error = some err := by
    rw [← Hash.state_transformWith]
    exact herr
  obtain ⟨v, -, _, hv⟩ := Editor.exists_error_of_feed hfed
  exact ⟨v, hv⟩

theorem Hash.ofData_transform (h : Hash) (p : Path) {f : Value → Except FixError (Option Value)}
    (hf : ∀ v, Gives (f v) fun _ => True) : (h.transform p f).OfData := by
  intro err herr
  obtain ⟨v, hv⟩ := exists_error_of_transform herr
  have hgives := hf v
  rw [hv] at hgives
  exact hgives

end RecordFix
