import RecordFix.Batch.Run
import RecordFix.Proofs.Fix.Composition
import RecordFix.Proofs.Fix.Operations

/-!
# Rejection

`Expression.Reaches` tells which calls a run carries out, and how many records inside the record at
hand: the block `list` without the option `var` makes each item a record of its own for the time
being, and every other block works on the record at hand. A call of `reject` on the record at hand
is never lost: whatever is carried out afterwards, and whether or not it fails, the record ends up
rejected, and a run over many records does not pass it on (`Batch.rejected_of_reaches`). Nothing
else rejects a record (`Expression.rejected_runAll_iff`).
-/

namespace RecordFix

/-- The record at hand is rejected. -/
def State.Rejected (s : State) : Prop := s.record.rejected = true

instance (s : State) : Decidable s.Rejected := inferInstanceAs (Decidable (_ = true))

/-- What is carried out leaves a rejected record rejected. -/
def KeepsRejected (f : State → Edited State) : Prop := ∀ s, s.Rejected → (f s).value.Rejected

theorem rejected_andThen {first : Edited State} {next : State → Edited State}
    (hfirst : first.value.Rejected) (hnext : KeepsRejected next) :
    (first.andThen next).value.Rejected := by
  cases herror : first.error with
  | none =>
    rw [Edited.andThen_of_none herror]
    exact hnext _ hfirst
  | some err => rwa [Edited.andThen_of_some herror]

theorem compositional_rejected :
    Compositional fun s left => s.Rejected → left.value.Rejected where
  skip _ hs := hs
  fail _ _ _ hs := hs
  andThen hfirst hnext hs := rejected_andThen (hfirst hs) hnext
  fields _ _ h hs := h hs
  scope _ hs := hs

/-- The functions that a host adds leave a rejected record rejected. -/
def Extensions.KeepRejected (e : Extensions) : Prop :=
  ∀ name f, e.function name = .ok f → ∀ params options, KeepsRejected (f params options)

/-! ## What a run carries out -/

/-- In the course of going through items one of them is visited, from a state on. -/
inductive State.Visits (visit : Value → State → Edited (Option Value × State))
    (back : Option Path) : Nat → List Value → State → Value → State → Prop where
  | first (index : Nat) (item : Value) (rest : List Value) (s : State) :
    Visits visit back index (item :: rest) s item s
  | later {index : Nat} {item v : Value} {rest : List Value} {s t : State}
    (done : (visit item s).error = none)
    (visits : Visits visit back (index + 1) rest (settle back index (visit item s).value) v t) :
    Visits visit back index (item :: rest) s v t

namespace Expression

/-- Carrying out an expression carries out a block inside it, from a state on. The number tells how
many records further inside that is. -/
inductive Enters (e : Extensions) : Expression → State → Nat → List Expression → State → Prop where
  | test {i body elsif otherwise s} (holds : s.test e i = .ok true) :
    Enters e (.ifElse i body elsif otherwise) s 0 body s
  | elsif {i body j other otherwise s} (fails : s.test e i = .ok false)
    (holds : s.test e j = .ok true) :
    Enters e (.ifElse i body (some (j, other)) otherwise) s 0 other s
  | otherwise {i body elsif last s} (fails : s.test e i = .ok false)
    (fail : ∀ branch, elsif = some branch → s.test e branch.1 = .ok false) :
    Enters e (.ifElse i body elsif (some last)) s 0 last s
  | unless {i body s} (fails : s.test e i = .ok false) : Enters e (.ifNot i body) s 0 body s
  | field {i body s path items var v t} (lists : s.Lists i path items)
    (named : Entries.get? (i.resolvedOptions s.session) "var" = some var)
    (visits : State.Visits (State.withItem (runAll e body) var) (s.backPath path) 0 items s v t) :
    Enters e (.bind i body) s 0 body (t.withField var v)
  | record {i body s path items fields t} (lists : s.Lists i path items)
    (unnamed : Entries.get? (i.resolvedOptions s.session) "var" = none)
    (visits : State.Visits (State.insideItem (runAll e body)) (s.backPath path) 0 items s
      (.hash fields) t) :
    Enters e (.bind i body) s 1 body (t.withRecord fields)

/-- Carrying out expressions calls a function, from a state on. The number tells how many records
inside the record at hand that is. -/
inductive Reaches (e : Extensions) : List Expression → State → Nat → Invocation → State → Prop where
  | call (i : Invocation) (rest : List Expression) (s : State) :
    Reaches e (.call i :: rest) s 0 i s
  | inside {x body rest s t u i depth more} (enters : Enters e x s depth body t)
    (reaches : Reaches e body t more i u) : Reaches e (x :: rest) s (depth + more) i u
  | later {x rest s t i depth} (done : (run e x s).error = none)
    (reaches : Reaches e rest (run e x s).value depth i t) : Reaches e (x :: rest) s depth i t

end Expression

/-! ## A rejected record stays rejected -/

namespace State

variable {s : State} {body : State → Edited State}

theorem rejected_settle {back : Option Path} {index : Nat} {visited : Option Value × State} :
    (settle back index visited).Rejected ↔ visited.2.Rejected := by
  unfold settle
  split <;> exact Iff.rfl

theorem rejected_withItem (var : String) (item : Value) (s : State) :
    (withItem body var item s).value.2.Rejected ↔ (body (s.withField var item)).value.Rejected :=
  Iff.rfl

theorem rejected_insideItem (item : Value) (s : State) :
    (insideItem body item s).value.2.Rejected ↔ s.Rejected := by
  unfold insideItem
  split <;> exact Iff.rfl

/-- Once rejected the record stays so while the items after that are gone through. -/
theorem rejected_forEach_of_visits {visit : Value → State → Edited (Option Value × State)}
    {back : Option Path} (hvisit : ∀ item t, t.Rejected → (visit item t).value.2.Rejected)
    {index : Nat} {items : List Value} {v : Value} {t : State}
    (hvisits : Visits visit back index items s v t) (ht : (visit v t).value.2.Rejected) :
    (forEach visit back index items s).value.Rejected := by
  induction hvisits with
  | first index item rest s =>
    cases herror : (visit item s).error with
    | some err => rwa [forEach_cons_of_some herror]
    | none =>
      rw [forEach_cons_of_none herror]
      exact compositional_rejected.forEach hvisit _ _ rest _ (rejected_settle.mpr ht)
  | later done _ ih =>
    rw [forEach_cons_of_none done]
    exact ih ht

theorem rejected_call {e : Extensions} (he : e.KeepRejected) (i : Invocation) (hs : s.Rejected) :
    (s.call e i).value.Rejected := by
  unfold call
  dsimp only
  split
  · split
    · next hf =>
      obtain ⟨own, hown⟩ := Extensions.function_of_inSession hf
      exact he own _ hown _ _ s hs
    · exact hs
  · split
    · rename_i f _
      by_cases hf : f = .reject
      · rw [hf, Builtin.apply_reject]
        rfl
      · exact (Builtin.orderly_apply hf _ _ s).rejected.trans hs
    · exact hs

theorem rejected_call_reject {e : Extensions} {i : Invocation} (hname : i.name = "reject") :
    (s.call e i).value.Rejected := by
  have hnamed : Builtin.named? "reject" = some .reject := by decide +kernel
  have hplain : isNamespaced "reject" = false := by decide +kernel
  simp only [call, hname, hplain, hnamed, Builtin.apply_reject]
  rfl

end State

namespace Expression

variable {e : Extensions}

theorem keepsRejected_runAll (he : e.KeepRejected) (xs : List Expression) :
    KeepsRejected (runAll e xs) := by
  refine runAll_of_local compositional_rejected xs fun x _ => ?_
  have htest (i : Invocation) : FailedTest e (fun s left => s.Rejected → left.value.Rejected) i :=
    fun s err _ hs => hs
  cases x with
  | call i => exact fun s hs => State.rejected_call he i hs
  | bind i body => exact fun _ s hs => hs
  | ifElse i body elsif otherwise => exact ⟨htest i, fun branch _ => htest branch.1⟩
  | ifNot i body => exact htest i

/-! ## A call of `reject` is not lost -/

/-- A block that is entered on the record at hand has its rejection kept. -/
theorem rejected_run_of_enters {x : Expression} {s t : State} {body : List Expression}
    (he : e.KeepRejected) (henters : Enters e x s 0 body t)
    (ht : (runAll e body t).value.Rejected) : (run e x s).value.Rejected := by
  generalize hdepth : 0 = depth at henters
  cases henters with
  | test holds => simpa only [run, State.decide, holds] using ht
  | elsif fails holds => simpa only [run, State.decide, runBranch, fails, holds] using ht
  | @otherwise i first elsif last s fails fail =>
    cases elsif with
    | none => simpa only [run, State.decide, runBranch, runElse, fails] using ht
    | some branch =>
      have hbranch := fail branch rfl
      simpa only [run, State.decide, runBranch, runElse, fails, hbranch] using ht
  | «unless» fails => simpa only [run, State.decide, fails] using ht
  | field lists named visits =>
    rw [run, State.bind_of_lists lists]
    simp only [State.visit, named]
    refine State.rejected_forEach_of_visits (fun item t ht => ?_) visits ht
    exact (State.rejected_withItem _ item t).mpr (keepsRejected_runAll he body _ ht)
  | record => cases hdepth

/-- The call itself marks the record; blocks around it and all that comes later keep the mark. -/
theorem rejected_runAll_of_reaches {xs : List Expression} {s t : State} {i : Invocation}
    (he : e.KeepRejected) (hname : i.name = "reject") (hreaches : Reaches e xs s 0 i t) :
    (runAll e xs s).value.Rejected := by
  generalize hdepth : 0 = depth at hreaches
  induction hreaches with
  | call i rest s =>
    rw [runAll, run]
    exact rejected_andThen (State.rejected_call_reject hname) (keepsRejected_runAll he rest)
  | @inside x body rest s t u i depth more enters reaches ih =>
    obtain ⟨rfl, rfl⟩ : depth = 0 ∧ more = 0 := by omega
    rw [runAll]
    exact rejected_andThen (rejected_run_of_enters he enters (ih hname rfl))
      (keepsRejected_runAll he rest)
  | later done reaches ih =>
    rw [runAll, Edited.andThen_of_none done]
    exact ih hname hdepth

end Expression

/-! ## Nothing else rejects a record -/

/-- The functions that a host adds leave the mark of rejection as it is. -/
def Extensions.LeaveRejection (e : Extensions) : Prop :=
  ∀ name f, e.function name = .ok f → ∀ params options s,
    (f params options s).value.record.rejected = s.record.rejected

theorem Extensions.LeaveRejection.keepRejected {e : Extensions} (he : e.LeaveRejection) :
    e.KeepRejected :=
  fun name f hf params options s hs => (he name f hf params options s).trans hs

namespace State

variable {s : State} {e : Extensions} {i : Invocation} {body yes no : State → Edited State}

theorem name_of_rejected_call (he : e.LeaveRejection) (h : (s.call e i).value.Rejected)
    (hs : ¬ s.Rejected) : i.name = "reject" := by
  unfold call at h
  dsimp only at h
  split at h
  · split at h
    · next hf =>
      obtain ⟨own, hown⟩ := Extensions.function_of_inSession hf
      exact absurd ((he own _ hown _ _ s).symm.trans h) hs
    · exact absurd h hs
  · split at h
    · rename_i f hnamed
      by_cases hf : f = .reject
      · rw [hf] at hnamed
        exact (Builtin.name_of_named? hnamed).symm
      · exact absurd ((Builtin.orderly_apply hf _ _ s).rejected.symm.trans h) hs
    · exact absurd h hs

theorem test_of_rejected_decide (h : (s.decide e i yes no).value.Rejected) (hs : ¬ s.Rejected) :
    (s.test e i = .ok true ∧ (yes s).value.Rejected) ∨
      (s.test e i = .ok false ∧ (no s).value.Rejected) := by
  unfold decide at h
  split at h
  · exact absurd h hs
  · exact .inl ⟨‹_›, h⟩
  · exact .inr ⟨‹_›, h⟩

theorem visits_of_rejected_forEach {visit : Value → State → Edited (Option Value × State)}
    {back : Option Path} {index : Nat} {items : List Value}
    (h : (forEach visit back index items s).value.Rejected) (hs : ¬ s.Rejected) :
    ∃ v t, Visits visit back index items s v t ∧ ¬ t.Rejected ∧
      (visit v t).value.2.Rejected := by
  induction items generalizing index s with
  | nil => exact absurd h hs
  | cons item rest ih =>
    by_cases hitem : (visit item s).value.2.Rejected
    · exact ⟨item, s, .first _ _ _ _, hs, hitem⟩
    · cases herror : (visit item s).error with
      | some err =>
        rw [forEach_cons_of_some herror] at h
        exact absurd h hitem
      | none =>
        rw [forEach_cons_of_none herror] at h
        obtain ⟨v, t, hvisits, ht, hv⟩ := ih h fun hnext => hitem (rejected_settle.mp hnext)
        exact ⟨v, t, .later herror hvisits, ht, hv⟩

/-- Only with a variable can the block reject the record at hand. -/
theorem visits_of_rejected_bind (h : (s.bind i body).value.Rejected) (hs : ¬ s.Rejected) :
    ∃ path items var v t, s.Lists i path items ∧
      Entries.get? (i.resolvedOptions s.session) "var" = some var ∧
      Visits (withItem body var) (s.backPath path) 0 items s v t ∧
      ¬ (t.withField var v).Rejected ∧ (body (t.withField var v)).value.Rejected := by
  obtain ⟨path, items, hlists⟩ : ∃ path items, s.Lists i path items := by
    unfold bind list at h
    split at h
    · rename_i hname
      split at h
      · exact absurd h hs
      · rename_i text htext
        dsimp only at h
        split at h
        · rename_i items hitems
          exact ⟨_, items, hname, by rw [htext]; rfl, hitems⟩
        · exact absurd h hs
    · exact absurd h hs
  rw [bind_of_lists hlists] at h
  obtain ⟨v, t, hvisits, ht, hv⟩ := visits_of_rejected_forEach h hs
  unfold visit at hvisits hv
  cases hvar : Entries.get? (i.resolvedOptions s.session) "var" with
  | some var =>
    rw [hvar] at hvisits hv
    exact ⟨path, items, var, v, t, hlists, rfl, hvisits, ht, hv⟩
  | none =>
    rw [hvar] at hv
    exact absurd ((rejected_insideItem v t).mp hv) ht

end State

namespace Expression

variable {e : Extensions}

mutual

theorem reaches_of_rejected_run (he : e.LeaveRejection) (x : Expression) (rest : List Expression)
    {s : State} (h : (run e x s).value.Rejected) (hs : ¬ s.Rejected) :
    ∃ i t, i.name = "reject" ∧ Reaches e (x :: rest) s 0 i t := by
  match x with
  | .call i =>
    rw [run] at h
    exact ⟨i, s, State.name_of_rejected_call he h hs, .call i rest s⟩
  | .bind i body =>
    rw [run] at h
    obtain ⟨path, items, var, v, t, hlists, hvar, hvisits, ht, hbody⟩ :=
      State.visits_of_rejected_bind h hs
    obtain ⟨j, u, hj, hreaches⟩ := reaches_of_rejected_runAll he body hbody ht
    exact ⟨j, u, hj, .inside (.field hlists hvar hvisits) hreaches⟩
  | .ifElse i body elsif otherwise =>
    rw [run] at h
    rcases State.test_of_rejected_decide h hs with ⟨htest, hbody⟩ | ⟨htest, hother⟩
    · obtain ⟨j, u, hj, hreaches⟩ := reaches_of_rejected_runAll he body hbody hs
      exact ⟨j, u, hj, .inside (.test htest) hreaches⟩
    · rcases reaches_of_rejected_runBranch he elsif hother hs with
        ⟨k, other, rfl, hk, j, u, hj, hreaches⟩ | ⟨hbranch, hlast⟩
      · exact ⟨j, u, hj, .inside (.elsif htest hk) hreaches⟩
      · obtain ⟨last, rfl, j, u, hj, hreaches⟩ := reaches_of_rejected_runElse he otherwise hlast hs
        exact ⟨j, u, hj, .inside (.otherwise htest hbranch) hreaches⟩
  | .ifNot i body =>
    rw [run] at h
    rcases State.test_of_rejected_decide h hs with ⟨_, hnone⟩ | ⟨htest, hbody⟩
    · exact absurd hnone hs
    · obtain ⟨j, u, hj, hreaches⟩ := reaches_of_rejected_runAll he body hbody hs
      exact ⟨j, u, hj, .inside (.unless htest) hreaches⟩

theorem reaches_of_rejected_runAll (he : e.LeaveRejection) (xs : List Expression) {s : State}
    (h : (runAll e xs s).value.Rejected) (hs : ¬ s.Rejected) :
    ∃ i t, i.name = "reject" ∧ Reaches e xs s 0 i t := by
  match xs with
  | [] =>
    rw [runAll] at h
    exact absurd h hs
  | x :: rest =>
    by_cases hx : (run e x s).value.Rejected
    · exact reaches_of_rejected_run he x rest hx hs
    · rw [runAll] at h
      cases herror : (run e x s).error with
      | some err =>
        rw [Edited.andThen_of_some herror] at h
        exact absurd h hx
      | none =>
        rw [Edited.andThen_of_none herror] at h
        obtain ⟨i, t, hi, hreaches⟩ := reaches_of_rejected_runAll he rest h hx
        exact ⟨i, t, hi, .later herror hreaches⟩

theorem reaches_of_rejected_runBranch (he : e.LeaveRejection)
    (elsif : Option (Invocation × List Expression)) {no : State → Edited State} {s : State}
    (h : (runBranch e elsif no s).value.Rejected) (hs : ¬ s.Rejected) :
    (∃ k other, elsif = some (k, other) ∧ s.test e k = .ok true ∧
      ∃ i t, i.name = "reject" ∧ Reaches e other s 0 i t) ∨
    ((∀ branch, elsif = some branch → s.test e branch.1 = .ok false) ∧
      (no s).value.Rejected) := by
  match elsif with
  | none =>
    rw [runBranch] at h
    exact .inr ⟨nofun, h⟩
  | some (k, other) =>
    rw [runBranch] at h
    rcases State.test_of_rejected_decide h hs with ⟨htest, hbody⟩ | ⟨htest, hno⟩
    · exact .inl ⟨k, other, rfl, htest, reaches_of_rejected_runAll he other hbody hs⟩
    · refine .inr ⟨fun branch hbranch => ?_, hno⟩
      cases hbranch
      exact htest

theorem reaches_of_rejected_runElse (he : e.LeaveRejection) (otherwise : Option (List Expression))
    {s : State} (h : (runElse e otherwise s).value.Rejected) (hs : ¬ s.Rejected) :
    ∃ last, otherwise = some last ∧ ∃ i t, i.name = "reject" ∧ Reaches e last s 0 i t := by
  match otherwise with
  | none =>
    rw [runElse] at h
    exact absurd h hs
  | some last =>
    rw [runElse] at h
    exact ⟨last, rfl, reaches_of_rejected_runAll he last h hs⟩

end

/-- If the functions of the host leave the mark alone, a run ends with a rejected record exactly if
it begins with one or calls `reject` on the record at hand. -/
theorem rejected_runAll_iff (he : e.LeaveRejection) {xs : List Expression} {s : State} :
    (runAll e xs s).value.Rejected ↔
      s.Rejected ∨ ∃ i t, i.name = "reject" ∧ Reaches e xs s 0 i t := by
  constructor
  · intro h
    by_cases hs : s.Rejected
    · exact .inl hs
    · exact .inr (reaches_of_rejected_runAll he xs h hs)
  · rintro (hs | ⟨i, t, hname, hreaches⟩)
    · exact keepsRejected_runAll he.keepRejected xs s hs
    · exact rejected_runAll_of_reaches he.keepRejected hname hreaches

end Expression

/-! ## Rejected records are not passed on -/

namespace Batch

variable {b : Batch}

theorem emitted_emit_of_rejected {record : Record} (hrejected : record.rejected = true)
    (hconfig : b.config.emitRejected = false) (p : Progress) :
    (b.emit record p).emitted = p.emitted := by
  simp only [emit, hrejected, hconfig, Bool.not_false, Bool.and_self, if_true]

theorem emitted_step_of_rejected {index : Nat} {record : Record} {p : Progress}
    (hrejected : (b.transform (b.identify index record) p.session).value.Rejected)
    (hconfig : b.config.emitRejected = false) : (b.step index record p).emitted = p.emitted := by
  unfold step
  dsimp only
  split
  · exact emitted_emit_of_rejected hrejected hconfig _
  · split
    · rfl
    · rfl
    · exact emitted_emit_of_rejected hrejected hconfig _

theorem runFrom_singleton (index : Nat) (record : Record) (p : Progress) :
    b.runFrom index [record] p = b.step index record p := by
  unfold runFrom
  cases herror : (b.step index record p).error with
  | some err => simp only [herror]
  | none => simp only [herror, runFrom]

theorem runFrom_append {index : Nat} {before after : List Record} {p : Progress}
    (h : (b.runFrom index before p).error = none) :
    b.runFrom index (before ++ after) p =
      b.runFrom (index + before.length) after (b.runFrom index before p) := by
  induction before generalizing index p with
  | nil => rfl
  | cons record rest ih =>
    cases herror : (b.step index record p).error with
    | some err =>
      simp only [runFrom, herror] at h
      cases h
    | none =>
      simp only [runFrom, herror, List.cons_append, List.length_cons] at h ⊢
      rw [ih h, Nat.add_right_comm, Nat.add_assoc]

/-- If a run of the fix calls `reject` on the record at hand, the record ends up rejected, whatever
is carried out afterwards and whether or not it fails; and where the record comes up in a run over
many records it is not passed on. -/
theorem rejected_of_reaches (b : Batch) (he : b.extensions.KeepRejected) {s t : State}
    {i : Invocation} (hname : i.name = "reject")
    (hreaches : Expression.Reaches b.extensions b.fix s 0 i t) :
    (b.transform s.record s.session).value.Rejected ∧
      ∀ (before : List Record) (given : Record) (start : Session),
        (b.run before start).error = none →
        s = ⟨(b.run before start).session, b.identify before.length given⟩ →
        b.config.emitRejected = false →
        (b.run (before ++ [given]) start).emitted = (b.run before start).emitted := by
  have hrejected := Expression.rejected_runAll_of_reaches he hname hreaches
  refine ⟨hrejected, fun before given start hdone hs hconfig => ?_⟩
  subst hs
  rw [run, runFrom_append hdone, Nat.zero_add, runFrom_singleton]
  exact emitted_step_of_rejected hrejected hconfig

/-- Rejects a record if a part of it has a name, and goes on with a function of the host. -/
def partsSample : Batch where
  fix := [.bind { name := "list", options := [("path", "part"), ("var", "p")] }
      [.ofIf "exists" ["p.name"] [.ofCall "reject" []]],
    .ofCall "text.shout" ["title"]]
  extensions := .loudSample

theorem keepRejected_partsSample : partsSample.extensions.KeepRejected := by
  intro name f hf params options s hs
  rw [Extensions.function_loudSample hf]
  exact (State.orderly_replaceStrings _ _).rejected.trans hs

/-- The second part of the record has a name. -/
theorem rejected_of_reaches_partsSample :
    let parts : List Value := [.hash [("year", .string "1")], .hash [("name", .string "a")]]
    let given := Record.ofFields [("part", .array parts), ("title", .string "t")]
    (partsSample.transform (partsSample.identify 0 given) {}).value.Rejected ∧
      (partsSample.run [given] {}).emitted = [] := by
  intro parts given
  let e := partsSample.extensions
  let block : Invocation := { name := "list", options := [("path", "part"), ("var", "p")] }
  let named : Invocation := { name := "exists", params := ["p.name"] }
  let body : List Expression := [.ofIf "exists" ["p.name"] [.ofCall "reject" []]]
  let s : State := ⟨{}, partsSample.identify 0 given⟩
  have hlists : s.Lists block ["part"] parts := ⟨rfl, by decide +kernel, by decide +kernel⟩
  let visit := State.withItem (Expression.runAll e body) "p"
  obtain ⟨v, t, hvisits, htest⟩ : ∃ v t,
      State.Visits visit (s.backPath ["part"]) 0 parts s v t ∧
        (t.withField "p" v).test e named = .ok true :=
    ⟨_, _, .later (by decide +kernel) (.first _ _ _ _), by decide +kernel⟩
  have hinner : Expression.Reaches e body (t.withField "p" v) 0 { name := "reject" } _ :=
    .inside (.test htest) (.call _ _ _)
  have hreaches : Expression.Reaches e partsSample.fix s 0 { name := "reject" } _ :=
    .inside (.field hlists (by decide +kernel) hvisits) hinner
  obtain ⟨hrejected, hrun⟩ :=
    rejected_of_reaches partsSample keepRejected_partsSample rfl hreaches
  exact ⟨hrejected, hrun [] given {} rfl rfl rfl⟩

/-- The part is rejected, which is a record of its own for the time being. The record around it is
not. -/
theorem not_rejected_around_item :
    ¬ ∀ (b : Batch) (s t : State) (depth : Nat) (i : Invocation), b.extensions.KeepRejected →
      i.name = "reject" → Expression.Reaches b.extensions b.fix s depth i t →
        (b.transform s.record s.session).value.Rejected := by
  intro h
  let parts : List Value := [.hash [("name", .string "a")]]
  let block : Invocation := { name := "list", options := [("path", "part")] }
  let b : Batch := { fix := [.bind block [.ofCall "reject" []]] }
  let s : State := ⟨{}, .ofFields [("part", .array parts)]⟩
  have hlists : s.Lists block ["part"] parts := ⟨rfl, by decide +kernel, by decide +kernel⟩
  have hreaches : Expression.Reaches b.extensions b.fix s 1 { name := "reject" } _ :=
    .inside (.record hlists (by decide +kernel) (.first _ _ _ _)) (.call _ _ _)
  have hrejected := h b s _ 1 _ (fun name f hf => nomatch hf) rfl hreaches
  exact absurd hrejected (by decide +kernel)

end Batch

end RecordFix
