import RecordFix.Fix.Interpreter
import RecordFix.Proofs.Path.Errors

/-!
# From the parts of a run to the whole

A property of runs relates the state before to what is left behind. If it is `Compositional`, it
holds of a run as soon as each call, each failing test and each unknown block in the fix has it
(`Expression.runAll_of_local`): the induction over blocks, conditions and items is made here once.
-/

namespace RecordFix

/-- The state with other fields of the record. -/
def State.withFields (s : State) (fields : Hash) : State :=
  { s with record := { s.record with fields } }

/-- Putting an item back changes nothing but the fields of the record. -/
theorem State.exists_settle_eq (back : Option Path) (index : Nat)
    (visited : Option Value × State) :
    ∃ fields, settle back index visited = visited.2.withFields fields := by
  unfold settle
  split
  · exact ⟨_, rfl⟩
  · exact ⟨_, rfl⟩

/-- The property goes from the parts of a run to the whole. It does not look at the fields of the
record, and holds around an item that is the record for the time being if it holds inside. -/
structure Compositional (R : State → Edited State → Prop) : Prop where
  skip (s : State) : R s ⟨s, none⟩
  fail (s : State) {err : FixError} (h : err.OfData) : R s ⟨s, some err⟩
  andThen {s : State} {first : Edited State} {next : State → Edited State} (hfirst : R s first)
    (hnext : ∀ t, R t (next t)) : R s (first.andThen next)
  fields {s : State} {left : Edited State} (before after : Hash) (h : R s left) :
    R (s.withFields before) (left.map (·.withFields after))
  scope {s : State} {left : Edited State} {fields : Hash} (h : R (s.withRecord fields) left) :
    R s (left.map fun t => { s with session := t.session })

/-- A test that fails has the property, taken as a run. -/
def FailedTest (e : Extensions) (R : State → Edited State → Prop) (i : Invocation) : Prop :=
  ∀ s err, s.test e i = .error err → R s ⟨s, some err⟩

/-- What the expression does by itself, apart from the expressions in it, has the property. -/
def Expression.Local (e : Extensions) (R : State → Edited State → Prop) : Expression → Prop
  | .call i => ∀ s, R s (s.call e i)
  | .bind i _ => i.name ≠ listBlock → ∀ s, R s ⟨s, some (.unknownOperation i.name)⟩
  | .ifElse i _ elsif _ =>
    FailedTest e R i ∧ ∀ branch, elsif = some branch → FailedTest e R branch.1
  | .ifNot i _ => FailedTest e R i

variable {R : State → Edited State → Prop} {e : Extensions}

/-! ## Blocks and conditions -/

namespace Compositional

variable (hR : Compositional R) {i : Invocation} {body yes no : State → Edited State}

include hR

theorem visit (hbody : ∀ s, R s (body s)) (options : Options) (item : Value) (s : State) :
    R s ((State.visit options body item s).map (·.2)) := by
  unfold State.visit
  cases Entries.get? options "var" with
  | some var =>
    let left := body (s.withField var item)
    have hleft := hR.fields s.record.fields (Entries.erase left.value.record.fields var)
      (hbody (s.withField var item))
    exact hleft
  | none =>
    show R s ((State.insideItem body item s).map (·.2))
    have hitem := item.gives_asHash
    unfold State.insideItem
    split
    · rename_i err herr
      rw [herr] at hitem
      exact hR.fail s hitem
    · exact hR.scope (hbody _)

theorem forEach {visit : Value → State → Edited (Option Value × State)}
    (hvisit : ∀ item s, R s ((visit item s).map (·.2))) (back : Option Path) (index : Nat)
    (items : List Value) (s : State) : R s (State.forEach visit back index items s) := by
  induction items generalizing index s with
  | nil => exact hR.skip s
  | cons item rest ih =>
    have hitem := hvisit item s
    cases herror : (visit item s).error with
    | some err =>
      rw [State.forEach_cons_of_some herror, ← herror]
      exact hitem
    | none =>
      rw [State.forEach_cons_of_none herror]
      obtain ⟨fields, hsettle⟩ := State.exists_settle_eq back index (visit item s).value
      have hsettled := hR.fields s.record.fields fields hitem
      rw [Edited.map_map, Edited.map, herror, ← hsettle] at hsettled
      exact hR.andThen hsettled (ih (index + 1))

theorem bind (hbody : ∀ s, R s (body s))
    (hname : i.name ≠ listBlock → ∀ s, R s ⟨s, some (.unknownOperation i.name)⟩) (s : State) :
    R s (s.bind i body) := by
  unfold State.bind
  split
  · unfold State.list
    split
    · exact hR.fail s trivial
    · dsimp only
      split
      · exact hR.forEach (hR.visit hbody _) _ _ _ s
      · exact hR.skip s
  · exact hname ‹_› s

omit hR

theorem decide (htest : FailedTest e R i) (hyes : ∀ s, R s (yes s)) (hno : ∀ s, R s (no s))
    (s : State) : R s (s.decide e i yes no) := by
  unfold State.decide
  split
  · exact htest s _ ‹_›
  · exact hyes s
  · exact hno s

end Compositional

/-! ## Runs -/

namespace Expression

mutual

theorem run_of_local (hR : Compositional R) (x : Expression) (hx : ∀ y ∈ nodes x, y.Local e R)
    (s : State) : R s (run e x s) := by
  match x with
  | .call i =>
    rw [nodes, List.forall_mem_singleton] at hx
    rw [run]
    exact hx s
  | .bind i body =>
    rw [nodes, List.forall_mem_cons] at hx
    rw [run]
    exact hR.bind (runAll_of_local hR body hx.2) hx.1 s
  | .ifElse i body elsif otherwise =>
    rw [nodes, List.forall_mem_cons, List.forall_mem_append, List.forall_mem_append] at hx
    obtain ⟨⟨htest, hbranch⟩, ⟨hbody, helsif⟩, hotherwise⟩ := hx
    rw [run]
    exact Compositional.decide htest (runAll_of_local hR body hbody)
      (runBranch_of_local hR elsif helsif hbranch (runElse_of_local hR otherwise hotherwise)) s
  | .ifNot i body =>
    rw [nodes, List.forall_mem_cons] at hx
    rw [run]
    exact Compositional.decide hx.1 hR.skip (runAll_of_local hR body hx.2) s

/-- A compositional property that holds of everything in a list of expressions holds of the run. -/
theorem runAll_of_local (hR : Compositional R) (xs : List Expression)
    (hxs : ∀ y ∈ nodesOf xs, y.Local e R) (s : State) : R s (runAll e xs s) := by
  match xs with
  | [] =>
    rw [runAll]
    exact hR.skip s
  | x :: rest =>
    rw [nodesOf, List.forall_mem_append] at hxs
    rw [runAll]
    exact hR.andThen (run_of_local hR x hxs.1 s) (runAll_of_local hR rest hxs.2)

theorem runBranch_of_local (hR : Compositional R) (elsif : Option (Invocation × List Expression))
    (helsif : ∀ y ∈ nodesOfBranch elsif, y.Local e R)
    (hbranch : ∀ branch, elsif = some branch → FailedTest e R branch.1)
    {no : State → Edited State} (hno : ∀ s, R s (no s)) (s : State) :
    R s (runBranch e elsif no s) := by
  match elsif with
  | none =>
    rw [runBranch]
    exact hno s
  | some (i, body) =>
    rw [nodesOfBranch] at helsif
    rw [runBranch]
    exact Compositional.decide (hbranch (i, body) rfl) (runAll_of_local hR body helsif) hno s

theorem runElse_of_local (hR : Compositional R) (otherwise : Option (List Expression))
    (hotherwise : ∀ y ∈ nodesOfElse otherwise, y.Local e R) (s : State) :
    R s (runElse e otherwise s) := by
  match otherwise with
  | none =>
    rw [runElse]
    exact hR.skip s
  | some body =>
    rw [nodesOfElse] at hotherwise
    rw [runElse]
    exact runAll_of_local hR body hotherwise s

end

end Expression

end RecordFix
