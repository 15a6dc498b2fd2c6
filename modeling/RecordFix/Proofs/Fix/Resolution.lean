import RecordFix.Command.Outcome
import RecordFix.Proofs.Fix.SessionChanges

/-!
# Names that stand for nothing

A run fails for a name that stands for nothing only if the check of the fix lists that name
(`Fix.mem_unresolved_of_run`). The check goes through all expressions and knows nothing of the
record; a run gets to some of them. Since built-in functions and predicates fail for other reasons
only, such an error comes from looking up a name, and the name is one of the fix.

The check and the run look names up among what is registered in a session, and functions of a host
may change that. A lookup that fails ends the run, so what counts is what is registered at the end
(`Fix.blames_run`). Built-in functions leave the registry alone; if those of the host take no name
back either, whatever stands for nothing at the end does so at the start
(`Fix.within_inSession_run`). A fix that the command `check` accepts therefore never fails for this
reason in the command `run`.
-/

namespace RecordFix

/-- The functions and predicates that a host adds do not say that a name stands for nothing. -/
structure Extensions.FailOnData (e : Extensions) : Prop where
  function : ∀ name f, e.function name = .ok f → ∀ params options s, (f params options s).OfData
  predicate : ∀ name p, e.predicate name = .ok p → ∀ params options s,
    Gives (p params options s) fun _ => True

/-- If a run fails because a name stands for nothing then it is one of the names that belong to the
session at its end. -/
def Edited.Blames (left : Edited State) (names : Session → List String) : Prop :=
  ∀ n, left.error = some (.unknownOperation n) → n ∈ names left.value.session

namespace Edited

variable {names : Session → List String}

theorem blames_of_none (s : State) : (⟨s, none⟩ : Edited State).Blames names := nofun

theorem OfData.blames {left : Edited State} (h : left.OfData) : left.Blames names :=
  fun _ hn => (h _ hn).elim

theorem Blames.andThen {first : Edited State} {next : State → Edited State}
    (h : first.Blames names) (hnext : ∀ s, (next s).Blames names) :
    (first.andThen next).Blames names :=
  andThen_elim (P := fun left : Edited State => left.Blames names) (fun _ => hnext _) fun _ _ => h

theorem blames_of_unknown (s : State) {name : String} (h : name ∈ names s.session) :
    (⟨s, some (.unknownOperation name)⟩ : Edited State).Blames names := by
  intro n hn
  cases hn
  exact h

end Edited

/-! ## Looking up names -/

namespace State

variable {s : State} {e : Extensions} {i : Invocation} {names : Session → List String}

theorem blames_call (he : e.FailOnData)
    (hname : (e.inSession s.session).hasFunction i.name = false → i.name ∈ names s.session) :
    (s.call e i).Blames names := by
  unfold call
  unfold Extensions.hasFunction at hname
  dsimp only
  split
  · rename_i hdot
    split
    · rename_i f hf
      obtain ⟨own, hown⟩ := Extensions.function_of_inSession hf
      exact (he.function own f hown _ _ s).blames
    · rename_i err herr
      obtain ⟨rfl, hnone⟩ := Extensions.lookUp_of_error herr
      exact Edited.blames_of_unknown s (hname (by rw [if_pos hdot, hnone]))
  · rename_i hplain
    split
    · exact (Builtin.ofData_apply _ _ _ s).blames
    · rename_i hnone
      exact Edited.blames_of_unknown s (hname (by rw [if_neg hplain, hnone]; rfl))

theorem test_of_unknown (he : e.FailOnData) {n : String}
    (h : s.test e i = .error (.unknownOperation n)) :
    n = i.name ∧ (e.inSession s.session).hasPredicate i.name = false := by
  unfold test at h
  unfold Extensions.hasPredicate
  dsimp only at h
  split at h
  · rename_i hdot
    split at h
    · rename_i p hp
      obtain ⟨own, hown⟩ := Extensions.predicate_of_inSession hp
      have hgives := he.predicate own p hown (i.resolvedParams s.session)
        (i.resolvedOptions s.session) s
      rw [h] at hgives
      exact hgives.elim
    · rename_i err herr
      obtain ⟨rfl, hnone⟩ := Extensions.lookUp_of_error herr
      cases h
      exact ⟨rfl, by rw [if_pos hdot, hnone]⟩
  · rename_i hplain
    split at h
    · rename_i p hp
      have hgives := p.gives_test s.record (i.resolvedParams s.session)
      rw [h] at hgives
      exact hgives.elim
    · rename_i hnone
      cases h
      exact ⟨rfl, by rw [if_neg hplain, hnone]; rfl⟩

/-- A test that fails because a name stands for nothing blames the name of its predicate. -/
theorem failedTest_blames (he : e.FailOnData)
    (hname : ∀ t, (e.inSession t).hasPredicate i.name = false → i.name ∈ names t) :
    FailedTest e (fun _ left => left.Blames names) i := by
  intro s err herr n hn
  cases hn
  obtain ⟨rfl, hnone⟩ := test_of_unknown he herr
  exact hname s.session hnone

end State

/-! ## Runs -/

theorem compositional_blames (names : Session → List String) :
    Compositional fun _ left => left.Blames names where
  skip s := Edited.blames_of_none s
  fail s _ h := (Edited.ofData_of_some s h).blames
  andThen hfirst hnext := hfirst.andThen hnext
  fields _ _ h := h
  scope h := h

/-- If all names in a fix that stand for nothing in a session are among those that belong to it then
a run blames one of them. -/
theorem Expression.blames_runAll {e : Extensions} (he : e.FailOnData)
    {names : Session → List String} {xs : List Expression}
    (hnames : ∀ x ∈ nodesOf xs, ∀ r ∈ x.references, ∀ t, r.resolves (e.inSession t) = false →
      r.name ∈ names t)
    (s : State) : (runAll e xs s).Blames names := by
  refine runAll_of_local (compositional_blames names) xs (fun x hx => ?_) s
  have hname := hnames x hx
  cases x with
  | call i =>
    exact fun s => State.blames_call he (hname (.function i.name) (by simp [references]) s.session)
  | bind i body =>
    intro hother s
    refine Edited.blames_of_unknown s
      (hname (.block i.name) (by simp [references]) s.session ?_)
    exact beq_eq_false_iff_ne.mpr hother
  | ifElse i body elsif otherwise =>
    refine ⟨State.failedTest_blames he (hname (.predicate i.name) (by simp [references])),
      fun branch hbranch => State.failedTest_blames he ?_⟩
    exact hname (.predicate branch.1.name) (by simp [references, hbranch])
  | ifNot i body =>
    exact State.failedTest_blames he (hname (.predicate i.name) (by simp [references]))

/-! ## The check -/

namespace Fix

theorem mem_distinctNames {seen names : List String} {n : String} :
    n ∈ distinctNames seen names ↔ n ∈ names ∧ n ∉ seen := by
  induction names generalizing seen with
  | nil => simp [distinctNames]
  | cons name rest ih =>
    unfold distinctNames
    by_cases hseen : name ∈ seen
    · rw [if_pos (by simpa using hseen), ih, List.mem_cons]
      constructor
      · exact fun h => ⟨.inr h.1, h.2⟩
      · rintro ⟨rfl | hn, hnot⟩
        · exact absurd hseen hnot
        · exact ⟨hn, hnot⟩
    · rw [if_neg (by simpa using hseen), List.mem_cons, ih, List.mem_cons, List.mem_cons]
      by_cases hn : n = name
      · simp [hn, hseen]
      · simp [hn]

theorem mem_unresolved_iff {fix : Fix} {e : Extensions} {n : String} :
    n ∈ fix.unresolved e ↔
      ∃ x ∈ Expression.nodesOf fix, ∃ r ∈ x.references, r.resolves e = false ∧ r.name = n := by
  simp only [unresolved, mem_distinctNames, List.mem_map, List.mem_filter, List.mem_flatMap,
    Bool.not_eq_true', List.not_mem_nil, not_false_eq_true, and_true]
  constructor
  · rintro ⟨r, ⟨⟨x, hx, hr⟩, hresolves⟩, rfl⟩
    exact ⟨x, hx, r, hr, hresolves, rfl⟩
  · rintro ⟨x, hx, r, hr, hresolves, rfl⟩
    exact ⟨r, ⟨⟨x, hx, hr⟩, hresolves⟩, rfl⟩

/-- A run blames names that the check lists for the session at its end, and no others. -/
theorem blames_run (fix : Fix) {e : Extensions} (he : e.FailOnData) (s : State) :
    (fix.run e s).Blames fun t => fix.unresolved (e.inSession t) :=
  Expression.blames_runAll he
    (fun x hx r hr _ hresolves => mem_unresolved_iff.mpr ⟨x, hx, r, hr, hresolves, rfl⟩) s

end Fix

/-! ## What stays registered -/

namespace Extensions

variable {e e' : Extensions}

/-- Every name that stands for something among the ones does so among the others. -/
structure Within (e e' : Extensions) : Prop where
  function : ∀ name, e.hasFunction name = true → e'.hasFunction name = true
  predicate : ∀ name, e.hasPredicate name = true → e'.hasPredicate name = true

theorem Within.refl (e : Extensions) : e.Within e := ⟨fun _ h => h, fun _ h => h⟩

theorem Within.trans {e'' : Extensions} (h : e.Within e') (h' : e'.Within e'') : e.Within e'' :=
  ⟨fun name hname => h'.function name (h.function name hname),
    fun name hname => h'.predicate name (h.predicate name hname)⟩

theorem Within.resolves (h : e.Within e') {r : Reference} (hr : r.resolves e = true) :
    r.resolves e' = true := by
  cases r with
  | function name => exact h.function name hr
  | predicate name => exact h.predicate name hr
  | block name => exact hr

/-- The functions that a host adds take back no name that is registered. -/
def KeepNames (e : Extensions) : Prop :=
  ∀ name f, e.function name = .ok f → ∀ params options s,
    (e.inSession s.session).Within (e.inSession (f params options s).value.session)

end Extensions

theorem State.within_inSession_call {e : Extensions} (hkeep : e.KeepNames) (s : State)
    (i : Invocation) :
    (e.inSession s.session).Within (e.inSession (s.call e i).value.session) := by
  unfold call
  dsimp only
  split
  · split
    · rename_i f hf
      obtain ⟨own, hown⟩ := Extensions.function_of_inSession hf
      exact hkeep own f hown _ _ s
    · exact .refl _
  · split
    · rename_i f _
      have hchanges := (Builtin.sessionSpec_apply (i.resolvedParams s.session)
        (i.resolvedOptions s.session) s f).changes
      unfold Extensions.inSession
      rw [Session.registry_of_changes hchanges]
      exact .refl _
    · exact .refl _

namespace Fix

/-- A run takes back no name that is registered, if the functions of the host take none back. -/
theorem within_inSession_run (fix : Fix) {e : Extensions} (hkeep : e.KeepNames) (s : State) :
    (e.inSession s.session).Within (e.inSession (fix.run e s).value.session) := by
  refine Expression.runAll_of_local
    (compositional_session (P := fun s t => (e.inSession s).Within (e.inSession t))
      (fun _ => .refl _) .trans) fix (fun x _ => ?_) s
  cases x with
  | call i => exact fun t => t.within_inSession_call hkeep i
  | bind i body => exact fun _ _ => .refl _
  | ifElse i body elsif otherwise => exact ⟨fun _ _ _ => .refl _, fun _ _ _ _ _ => .refl _⟩
  | ifNot i body => exact fun _ _ _ => .refl _

theorem unresolved_subset_of_within {e e' : Extensions} (h : e.Within e') (fix : Fix) :
    fix.unresolved e' ⊆ fix.unresolved e := by
  intro n hn
  obtain ⟨x, hx, r, hr, hresolves, rfl⟩ := mem_unresolved_iff.mp hn
  refine mem_unresolved_iff.mpr ⟨x, hx, r, hr, ?_, rfl⟩
  exact Bool.eq_false_iff.mpr fun htrue => Bool.eq_false_iff.mp hresolves (h.resolves htrue)

end Fix

/-! ## Runs over many records -/

theorem Extensions.failOnData_empty : ({} : Extensions).FailOnData := ⟨nofun, nofun⟩

namespace Batch

/-- No failure so far, and not the end of the run, says that a name stands for nothing. -/
structure Progress.OfData (p : Progress) : Prop where
  failed : ∀ f ∈ p.summary.failed, f.2.OfData
  error : ∀ index err, p.error = some (.recordFailed index err) → err.OfData

variable {b : Batch}

theorem ofData_start (session : Session) : Progress.OfData { session } :=
  ⟨fun _ hf => absurd hf List.not_mem_nil, nofun⟩

theorem ofData_emit {p : Progress} (h : p.OfData) (record : Record) : (b.emit record p).OfData := by
  unfold emit
  split
  · exact ⟨h.failed, h.error⟩
  · exact ⟨h.failed, h.error⟩

theorem ofData_note {p : Progress} (h : p.OfData) (index : Nat) {err : FixError}
    (herr : err.OfData) : (note index err p).OfData := by
  refine ⟨fun f hf => ?_, h.error⟩
  rcases List.mem_append.mp hf with hf | hf
  · exact h.failed f hf
  · rw [List.mem_singleton.mp hf]
    exact herr

theorem ofData_step (hrun : ∀ record session, (b.transform record session).OfData)
    {p : Progress} (h : p.OfData) (index : Nat) (record : Record) :
    (b.step index record p).OfData := by
  have hdone := hrun (b.identify index record) p.session
  have hnext : Progress.OfData
      { p with session := (b.transform (b.identify index record) p.session).value.session } :=
    ⟨h.failed, h.error⟩
  unfold step
  dsimp only
  split
  · exact ofData_emit hnext _
  · rename_i err herr
    have hdata := hdone err herr
    split
    · refine ⟨h.failed, fun index' err' he => ?_⟩
      cases he
      exact hdata
    · exact ofData_note hnext index hdata
    · exact ofData_emit (ofData_note hnext index hdata) _

theorem ofData_runFrom (hrun : ∀ record session, (b.transform record session).OfData)
    {p : Progress} (h : p.OfData) (index : Nat) (records : List Record) :
    (b.runFrom index records p).OfData := by
  induction records generalizing index p with
  | nil => exact h
  | cons record rest ih =>
    have hstep := ofData_step hrun h index record
    unfold runFrom
    dsimp only
    split
    · exact hstep
    · exact ih hstep _

/-- Without extensions, a run of a fix in which all names stand for something fails for other
reasons only. -/
theorem ofData_run (hb : b.extensions = {}) (hfix : b.fix.unresolved {} = [])
    (records : List Record) (session : Session) : (b.run records session).OfData := by
  refine ofData_runFrom (fun record session err herr => ?_) (ofData_start session) 0 records
  have hblames := b.fix.blames_run Extensions.failOnData_empty ⟨session, record⟩
  simp only [Extensions.inSession_empty, hfix] at hblames
  rw [transform, hb] at herr
  cases err with
  | unknownOperation n => exact absurd (hblames n herr) List.not_mem_nil
  | _ => exact trivial

end Batch

theorem Command.unresolved_of_check {w : World} {path : String} {fix : Fix}
    (hload : loadFix w.files path = .ok fix) (hcode : (check w path).code = 0) :
    fix.unresolved {} = [] := by
  simp only [check, hload] at hcode
  split at hcode
  · assumption
  · cases hcode

theorem Extensions.failOnData_loudSample : loudSample.FailOnData := by
  constructor
  · intro name f hf params options s
    rw [function_loudSample hf]
    exact (State.orderly_replaceStrings _ _).ofData
  · intro name p hp params options s
    rw [predicate_loudSample hp]
    exact trivial

theorem Extensions.keepNames_loudSample : loudSample.KeepNames := by
  intro name f hf params options s
  rw [function_loudSample hf]
  exact .refl _

/-- The file of a fix with a single call. -/
def Command.World.upcaseSample : World where
  stdin := none
  files := { entry := fun _ => .file "[[\"call\",\"upcase\",[\"a\"]]]".toUTF8.toList }

end RecordFix
