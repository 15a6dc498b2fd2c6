import RecordFix.Proofs.Fix.Sessions

/-!
# Runs that pass nothing on

A fix without `put_var`, `put_vars`, `put_map`, `put_filemap` and `random` can change the session by
reading tables on demand only, which changes no answer. So what it leaves of a record is the same in
all sessions that agree (`Fix.isolated_run`), and the session that is left behind agrees with them
again: a run learns nothing of the records before it.
-/

namespace RecordFix

/-- Alike states lead to alike outcomes. -/
def Isolated (r : Session) (f : State → Edited State) : Prop :=
  ∀ s t, s.Alike r t → (f s).Alike r (f t)

/-- Alike states lead to alike outcomes of a visit, which hands over the same item. -/
def IsolatedVisit (r : Session) (visit : Value → State → Edited (Option Value × State)) : Prop :=
  ∀ item s t, s.Alike r t → (visit item s).value.1 = (visit item t).value.1 ∧
    ((visit item s).map (·.2)).Alike r ((visit item t).map (·.2))

/-- The functions that pass something on to later records. -/
def Builtin.passedOn : List String := ["put_var", "put_vars", "put_map", "put_filemap", "random"]

/-- None of the calls in the fix passes something on to later records. -/
def Fix.PassesNothingOn (fix : Fix) : Prop :=
  ∀ i, .call i ∈ Expression.nodesOf fix → i.name ∉ Builtin.passedOn

namespace State

variable {r : Session} {s t : State} {body yes no : State → Edited State} {i : Invocation}

theorem Alike.resolve (h : s.Alike r t) (text : String) :
    s.session.resolve text = t.session.resolve text := by
  rw [Session.resolve, Session.resolve, ← h.left.vars, h.right.vars]

theorem Alike.resolvedParams (h : s.Alike r t) (i : Invocation) :
    i.resolvedParams s.session = i.resolvedParams t.session :=
  List.map_congr_left fun text _ => h.resolve text

theorem Alike.resolvedOptions (h : s.Alike r t) (i : Invocation) :
    i.resolvedOptions s.session = i.resolvedOptions t.session :=
  List.map_congr_left fun o _ => congrArg (Prod.mk o.1) (h.resolve o.2)

/-! ## Calls and tests -/

theorem isolated_apply {f : Builtin} (hf : f.name ∉ Builtin.passedOn) (params : List String)
    (options : Options) : Isolated r (f.apply params options) := by
  intro s t h
  by_cases hlookup : f = .lookup
  · subst hlookup
    exact Builtin.lookup_alike h params options
  · have hfree : f ∉ Builtin.sessionFunctions := by
      revert hf hlookup
      cases f <;> decide
    have ht : t = s.withSession t.session := by
      rw [withSession, h.record]
    rw [ht, Builtin.apply_withSession params options s t.session hfree]
    have hs := Builtin.session_apply params options s hfree
    exact ⟨⟨hs ▸ h.left, h.right, rfl⟩, rfl⟩

theorem isolated_call (hname : i.name ∉ Builtin.passedOn) : Isolated r (·.call {} i) := by
  intro s t h
  show (s.call {} i).Alike r (t.call {} i)
  unfold call
  rw [h.resolvedParams, h.resolvedOptions, Extensions.inSession_empty, Extensions.inSession_empty]
  dsimp only
  split
  · exact ⟨h, rfl⟩
  · split
    · rename_i f hf
      rw [← Builtin.name_of_named? hf] at hname
      exact isolated_apply hname _ _ s t h
    · exact ⟨h, rfl⟩

theorem Alike.test (h : s.Alike r t) (i : Invocation) : s.test {} i = t.test {} i := by
  unfold State.test
  rw [h.resolvedParams, h.resolvedOptions, h.record, Extensions.inSession_empty,
    Extensions.inSession_empty]
  rfl

/-! ## Blocks and conditions -/

theorem isolated_andThen {first next : State → Edited State} (hfirst : Isolated r first)
    (hnext : Isolated r next) : Isolated r fun s => (first s).andThen next := by
  intro s t h
  have hdone := hfirst s t h
  have herror := hdone.error
  show ((first s).andThen next).Alike r ((first t).andThen next)
  cases hs : (first s).error with
  | none =>
    rw [Edited.andThen_of_none hs, Edited.andThen_of_none (herror.symm.trans hs)]
    exact hnext _ _ hdone.value
  | some err =>
    rw [Edited.andThen_of_some hs, Edited.andThen_of_some (herror.symm.trans hs)]
    exact hdone

theorem isolated_decide (hyes : Isolated r yes) (hno : Isolated r no) :
    Isolated r fun s => s.decide {} i yes no := by
  intro s t h
  show (s.decide {} i yes no).Alike r (t.decide {} i yes no)
  unfold State.decide
  rw [h.test i]
  split
  · exact ⟨h, rfl⟩
  · exact hyes s t h
  · exact hno s t h

theorem isolated_withItem (hbody : Isolated r body) (var : String) :
    IsolatedVisit r (withItem body var) := by
  intro item s t h
  have hs : (s.withField var item).Alike r (t.withField var item) :=
    ⟨h.left, h.right, by rw [withField, withField, h.record]⟩
  obtain ⟨⟨hleft, hright, hrecord⟩, herror⟩ := hbody _ _ hs
  refine ⟨?_, ⟨hleft, hright, ?_⟩, herror⟩
  · simp only [withItem, herror, hrecord]
  · simp only [withItem, Edited.map, hrecord]

theorem isolated_insideItem (hbody : Isolated r body) : IsolatedVisit r (insideItem body) := by
  intro item s t h
  unfold insideItem
  split
  · exact ⟨rfl, h, rfl⟩
  · rename_i fields _
    obtain ⟨⟨hleft, hright, hrecord⟩, herror⟩ :=
      hbody (s.withRecord fields) (t.withRecord fields) ⟨h.left, h.right, rfl⟩
    refine ⟨?_, ⟨hleft, hright, h.record⟩, herror⟩
    simp only [herror, hrecord]

theorem isolated_visit (hbody : Isolated r body) (options : Options) :
    IsolatedVisit r (visit options body) := by
  unfold visit
  split
  · exact isolated_withItem hbody _
  · exact isolated_insideItem hbody

theorem alike_settle {v w : Option Value × State} (hitem : v.1 = w.1) (h : v.2.Alike r w.2)
    (back : Option Path) (index : Nat) : (settle back index v).Alike r (settle back index w) := by
  unfold settle
  rw [hitem]
  split
  · exact ⟨h.left, h.right, by rw [putBack, putBack, h.record]⟩
  · exact h

theorem isolated_forEach {visit : Value → State → Edited (Option Value × State)}
    (hvisit : IsolatedVisit r visit) (back : Option Path) (index : Nat) (items : List Value) :
    Isolated r (forEach visit back index items) := by
  induction items generalizing index with
  | nil => exact fun s t h => ⟨h, rfl⟩
  | cons item rest ih =>
    intro s t h
    obtain ⟨hitem, hvalue, herror⟩ := hvisit item s t h
    cases hs : (visit item s).error with
    | some err =>
      rw [forEach_cons_of_some hs, forEach_cons_of_some (herror.symm.trans hs)]
      exact ⟨hvalue, rfl⟩
    | none =>
      rw [forEach_cons_of_none hs, forEach_cons_of_none (herror.symm.trans hs)]
      exact ih (index + 1) _ _ (alike_settle hitem hvalue back index)

theorem isolated_bind (hbody : Isolated r body) (i : Invocation) :
    Isolated r fun s => s.bind i body := by
  intro s t h
  show (s.bind i body).Alike r (t.bind i body)
  unfold State.bind list backPath
  rw [h.resolvedOptions, h.record]
  split
  · split
    · exact ⟨h, rfl⟩
    · dsimp only
      split
      · exact isolated_forEach (isolated_visit hbody _) _ 0 _ s t h
      · exact ⟨h, rfl⟩
  · exact ⟨h, rfl⟩

end State

/-! ## Runs -/

namespace Expression

variable {r : Session}

mutual

theorem isolated_run (x : Expression)
    (hx : ∀ i, .call i ∈ nodes x → i.name ∉ Builtin.passedOn) : Isolated r (run {} x) := by
  intro s t h
  match x with
  | .call i =>
    rw [run, run]
    exact State.isolated_call (hx i (by rw [nodes]; exact List.mem_singleton_self _)) s t h
  | .bind i body =>
    rw [nodes] at hx
    have hbody := isolated_runAll body fun j hj => hx j (List.mem_cons_of_mem _ hj)
    rw [run, run]
    exact State.isolated_bind hbody i s t h
  | .ifElse i body elsif otherwise =>
    rw [nodes] at hx
    have hbody := isolated_runAll body fun j hj =>
      hx j (List.mem_cons_of_mem _ (List.mem_append_left _ (List.mem_append_left _ hj)))
    have hotherwise := isolated_runElse otherwise fun j hj =>
      hx j (List.mem_cons_of_mem _ (List.mem_append_right _ hj))
    have hbranch := isolated_runBranch elsif (fun j hj =>
      hx j (List.mem_cons_of_mem _ (List.mem_append_left _ (List.mem_append_right _ hj))))
      hotherwise
    rw [run, run]
    exact State.isolated_decide hbody hbranch s t h
  | .ifNot i body =>
    rw [nodes] at hx
    have hbody := isolated_runAll body fun j hj => hx j (List.mem_cons_of_mem _ hj)
    rw [run, run]
    exact State.isolated_decide (fun s t h => ⟨h, rfl⟩) hbody s t h

theorem isolated_runAll (xs : List Expression)
    (hxs : ∀ i, .call i ∈ nodesOf xs → i.name ∉ Builtin.passedOn) : Isolated r (runAll {} xs) := by
  intro s t h
  match xs with
  | [] =>
    rw [runAll, runAll]
    exact ⟨h, rfl⟩
  | x :: rest =>
    rw [nodesOf] at hxs
    have hx := isolated_run x fun j hj => hxs j (List.mem_append_left _ hj)
    have hrest := isolated_runAll rest fun j hj => hxs j (List.mem_append_right _ hj)
    rw [runAll, runAll]
    exact State.isolated_andThen hx hrest s t h

theorem isolated_runBranch (elsif : Option (Invocation × List Expression))
    (helsif : ∀ i, .call i ∈ nodesOfBranch elsif → i.name ∉ Builtin.passedOn)
    {no : State → Edited State} (hno : Isolated r no) : Isolated r (runBranch {} elsif no) := by
  intro s t h
  match elsif with
  | none =>
    rw [runBranch, runBranch]
    exact hno s t h
  | some (i, body) =>
    rw [nodesOfBranch] at helsif
    rw [runBranch, runBranch]
    exact State.isolated_decide (isolated_runAll body helsif) hno s t h

theorem isolated_runElse (otherwise : Option (List Expression))
    (hotherwise : ∀ i, .call i ∈ nodesOfElse otherwise → i.name ∉ Builtin.passedOn) :
    Isolated r (runElse {} otherwise) := by
  intro s t h
  match otherwise with
  | none =>
    rw [runElse, runElse]
    exact ⟨h, rfl⟩
  | some body =>
    rw [nodesOfElse] at hotherwise
    rw [runElse, runElse]
    exact isolated_runAll body hotherwise s t h

end

end Expression

/-- A fix that passes nothing on leaves the same of a record in all sessions that agree, and leads
to no others. -/
theorem Fix.isolated_run {fix : Fix} (hfix : fix.PassesNothingOn) (r : Session) :
    Isolated r (fix.run {}) :=
  Expression.isolated_runAll fix hfix

end RecordFix
