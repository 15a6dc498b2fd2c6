import RecordFix.Batch.Run

/-!
# Every record is accounted for

`Batch.transforms` lists what the fix leaves of each record, whatever becomes of it. A run over many
records walks along this list: `Progress.Accounts` says how the numbers and the records passed on
follow from the part that has been walked, one record keeps that up (`Batch.taken_step`), and so
does a run to its end (`Batch.ends_runFrom`). Each record is then passed on, rejected or left out,
and a run that ends early does so at the first failure (`Batch.run_accounts`).
-/

namespace RecordFix

namespace Batch

/-- What the fix leaves of each record, with the session handed on from record to record. -/
def transforms (b : Batch) : Nat → List Record → Session → List (Edited State)
  | _, [], _ => []
  | index, record :: rest, session =>
    let left := b.transform (b.identify index record) session
    left :: transforms b (index + 1) rest left.value.session

/-- The error of the fix on the record at an index, if it fails there. -/
def failure? (runs : List (Edited State)) (index : Nat) : Option FixError :=
  runs[index]?.bind (·.error)

/-- Whether a record is not passed on because it is rejected. -/
def withholds (b : Batch) (record : Record) : Bool := record.rejected && !b.config.emitRejected

/-- Whether what the fix leaves of a record is passed on. -/
def passes (b : Batch) (left : Edited State) : Bool :=
  (left.succeeded || b.config.onError == .emit) && !b.withholds left.value.record

/-- How many records are left out because of these failures. -/
def leftOut (b : Batch) (failed : List (Nat × FixError)) : Nat :=
  if b.config.onError = .skip then failed.length else 0

/-- The failures are those of what the fix has left so far, in order. -/
structure Progress.Lists (runs : List (Edited State)) (p : Progress) : Prop where
  increasing : (p.summary.failed.map (·.1)).Pairwise (· < ·)
  failed : ∀ index e, (index, e) ∈ p.summary.failed ↔ failure? runs index = some e

/-- What has been passed on and counted is what follows from what the fix has left so far. -/
structure Progress.Accounts (b : Batch) (runs : List (Edited State)) (p : Progress) : Prop
    extends p.Lists runs where
  emitted : p.emitted = (runs.filter b.passes).map (·.value.record)
  count : p.emitted.length = p.summary.emitted
  total : p.summary.emitted + p.summary.rejected + b.leftOut p.summary.failed = runs.length
  succeeded : b.config.onError = .halt → ∀ left ∈ runs, left.error = none

variable {b : Batch} {runs : List (Edited State)} {left : Edited State} {p : Progress}

@[simp] theorem length_transforms (b : Batch) (index : Nat) (records : List Record)
    (session : Session) : (b.transforms index records session).length = records.length := by
  induction records generalizing index session with
  | nil => rfl
  | cons record rest ih => exact congrArg (· + 1) (ih _ _)

/-! ## The failures -/

theorem failure?_append_singleton {index : Nat} {e : FixError} :
    failure? (runs ++ [left]) index = some e ↔
      failure? runs index = some e ∨ index = runs.length ∧ left.error = some e := by
  unfold failure?
  rcases Nat.lt_trichotomy index runs.length with h | rfl | h
  · simp [List.getElem?_append_left h, Nat.ne_of_lt h]
  · simp
  · have hlast : (runs ++ [left]).length ≤ index := by
      rw [List.length_append, List.length_singleton]
      exact h
    rw [List.getElem?_eq_none hlast, List.getElem?_eq_none (Nat.le_of_lt h)]
    simp [Nat.ne_of_gt h]

theorem Progress.Lists.lt_length (h : p.Lists runs) {f : Nat × FixError}
    (hf : f ∈ p.summary.failed) : f.1 < runs.length := by
  obtain ⟨left, hleft, -⟩ := Option.bind_eq_some_iff.mp ((h.failed f.1 f.2).mp hf)
  exact (List.getElem?_eq_some_iff.mp hleft).1

theorem lists_of_success (h : p.Lists runs) (herror : left.error = none) :
    p.Lists (runs ++ [left]) where
  increasing := h.increasing
  failed index e := by simp [failure?_append_singleton, herror, h.failed]

/-- A new failure comes behind all earlier ones. -/
theorem lists_note (h : p.Lists runs) {e : FixError} (herror : left.error = some e) :
    (note runs.length e p).Lists (runs ++ [left]) where
  increasing := by
    have hlast : ∀ f ∈ p.summary.failed, f.1 < runs.length := fun f hf => h.lt_length hf
    simpa [note, List.pairwise_append, h.increasing] using hlast
  failed index e' := by
    rw [failure?_append_singleton, ← h.failed, herror, Option.some_inj]
    simp [note, eq_comm]

/-! ## One record -/

theorem emit_of_withholds {record : Record} (h : b.withholds record = true) (p : Progress) :
    b.emit record p = { p with summary := { p.summary with rejected := p.summary.rejected + 1 } } :=
  if_pos h

theorem emit_of_not_withholds {record : Record} (h : b.withholds record = false) (p : Progress) :
    b.emit record p = { p with
      emitted := p.emitted ++ [record]
      summary := { p.summary with emitted := p.summary.emitted + 1 } } :=
  if_neg (Bool.eq_false_iff.mp h)

/-- A record that is not left out is passed on or rejected. `q` may have one more failure. -/
theorem accounts_emit {q : Progress} (h : p.Accounts b runs) (hq : q.Lists (runs ++ [left]))
    (hsame : q.emitted = p.emitted ∧ q.summary.emitted = p.summary.emitted ∧
      q.summary.rejected = p.summary.rejected)
    (hout : b.leftOut q.summary.failed = b.leftOut p.summary.failed)
    (hkept : (left.succeeded || b.config.onError == .emit) = true)
    (hhalt : b.config.onError = .halt → left.error = none) :
    (b.emit left.value.record q).Accounts b (runs ++ [left]) := by
  obtain ⟨hemitted, hcount, hrejected⟩ := hsame
  have htotal := h.total
  have hsucceeded (hpolicy : b.config.onError = .halt) : ∀ run ∈ runs ++ [left], run.error = none :=
    List.forall_mem_append.mpr
      ⟨h.succeeded hpolicy, List.forall_mem_singleton.mpr (hhalt hpolicy)⟩
  cases hwithheld : b.withholds left.value.record with
  | true =>
    rw [emit_of_withholds hwithheld]
    refine ⟨⟨hq.increasing, hq.failed⟩, ?_, ?_, ?_, hsucceeded⟩
    · simp [passes, hwithheld, hemitted, h.emitted]
    · simp only [hemitted, hcount, h.count]
    · simp only [hcount, hrejected, hout, List.length_append, List.length_singleton]
      omega
  | false =>
    rw [emit_of_not_withholds hwithheld]
    refine ⟨⟨hq.increasing, hq.failed⟩, ?_, ?_, ?_, hsucceeded⟩
    · simp [passes, hwithheld, hkept, hemitted, h.emitted]
    · simp [hemitted, hcount, h.count]
    · simp only [hcount, hrejected, hout, List.length_append, List.length_singleton]
      omega

/-- A record on which the fix fails is left out if the policy says so. -/
theorem accounts_note {e : FixError} (h : p.Accounts b runs) (herror : left.error = some e)
    (hpolicy : b.config.onError = .skip) : (note runs.length e p).Accounts b (runs ++ [left]) where
  toLists := lists_note h.toLists herror
  emitted := by simp [note, passes, Edited.succeeded, herror, hpolicy, h.emitted]
  count := h.count
  total := by
    have htotal := h.total
    simp only [note, leftOut, hpolicy, if_true, List.length_append, List.length_singleton] at *
    omega
  succeeded hhalt := by simp [hpolicy] at hhalt

/-- The session has no part in the numbers. -/
theorem Progress.Accounts.withSession (h : p.Accounts b runs) (session : Session) :
    Progress.Accounts b runs { p with session } :=
  ⟨⟨h.increasing, h.failed⟩, h.emitted, h.count, h.total, h.succeeded⟩

@[simp] theorem error_emit (b : Batch) (record : Record) (p : Progress) :
    (b.emit record p).error = p.error := by
  unfold emit
  split <;> rfl

@[simp] theorem session_emit (b : Batch) (record : Record) (p : Progress) :
    (b.emit record p).session = p.session := by
  unfold emit
  split <;> rfl

/-- Taking a record accounts for it, or ends the run with what has been accounted for before. -/
theorem taken_step (h : p.Accounts b runs) (hp : p.error = none) (record : Record) :
    let left := b.transform (b.identify runs.length record) p.session
    let next := b.step runs.length record p
    next.session = left.value.session ∧
      (next.Accounts b (runs ++ [left]) ∧ next.error = none ∨
        ∃ e, left.error = some e ∧ b.config.onError = .halt ∧ next.Accounts b runs ∧
          next.error = some (.recordFailed runs.length e)) := by
  intro left next
  have hq := h.withSession left.value.session
  cases herror : left.error with
  | none =>
    have hnext : next = b.emit left.value.record { p with session := left.value.session } := by
      simp only [next, step, left, herror]
    rw [hnext]
    refine ⟨session_emit _ _ _, .inl ⟨?_, (error_emit _ _ _).trans hp⟩⟩
    have hkept : left.succeeded = true := by rw [Edited.succeeded, herror]; rfl
    exact accounts_emit hq (lists_of_success hq.toLists herror) ⟨rfl, rfl, rfl⟩ rfl
      (by rw [hkept]; rfl) fun _ => herror
  | some e =>
    cases hpolicy : b.config.onError with
    | halt =>
      have hnext : next = { p with
          session := left.value.session
          error := some (.recordFailed runs.length e) } := by
        simp only [next, step, left, herror, hpolicy]
      rw [hnext]
      exact ⟨rfl, .inr ⟨e, rfl, rfl, ⟨⟨h.increasing, h.failed⟩, h.emitted, h.count, h.total,
        h.succeeded⟩, rfl⟩⟩
    | skip =>
      have hnext : next = note runs.length e { p with session := left.value.session } := by
        simp only [next, step, left, herror, hpolicy]
      rw [hnext]
      exact ⟨rfl, .inl ⟨accounts_note hq herror hpolicy, hp⟩⟩
    | emit =>
      have hnext : next = b.emit left.value.record
          (note runs.length e { p with session := left.value.session }) := by
        simp only [next, step, left, herror, hpolicy]
      rw [hnext]
      refine ⟨session_emit _ _ _, .inl ⟨?_, (error_emit _ _ _).trans hp⟩⟩
      refine accounts_emit hq (lists_note hq.toLists herror) ⟨rfl, rfl, rfl⟩ ?_ ?_ ?_
      · simp only [leftOut, hpolicy, reduceCtorEq, if_false]
      · simp [hpolicy]
      · simp [hpolicy]

/-! ## All records -/

/-- The run has got through what the fix leaves of the records, or has ended at the first
failure. -/
def Progress.Ends (b : Batch) (runs : List (Edited State)) (p : Progress) : Prop :=
  p.Accounts b runs ∧ p.error = none ∨
    ∃ index e, p.Accounts b (runs.take index) ∧ failure? runs index = some e ∧
      b.config.onError = .halt ∧ p.error = some (.recordFailed index e)

theorem ends_runFrom (records : List Record) (h : p.Accounts b runs) (hp : p.error = none) :
    (b.runFrom runs.length records p).Ends b
      (runs ++ b.transforms runs.length records p.session) := by
  induction records generalizing runs p with
  | nil => exact .inl ⟨by simpa [runFrom, transforms] using h, hp⟩
  | cons record rest ih =>
    let left := b.transform (b.identify runs.length record) p.session
    obtain ⟨hsession, ⟨hnext, herror⟩ | ⟨e, hleft, hpolicy, hnext, herror⟩⟩ :=
      taken_step h hp record
    · have hrest := ih hnext herror
      rw [hsession, List.length_append, List.length_singleton, List.append_assoc,
        List.singleton_append] at hrest
      simpa only [runFrom, herror, transforms] using hrest
    · refine .inr ⟨runs.length, e, ?_, ?_, hpolicy, ?_⟩
      · simpa [runFrom, herror] using hnext
      · simpa [transforms, failure?] using hleft
      · simp only [runFrom, herror]

theorem ends_run (b : Batch) (records : List Record) (session : Session) :
    (b.run records session).Ends b (b.transforms 0 records session) := by
  have hstart : Progress.Accounts b [] { session } :=
    ⟨⟨.nil, by simp [failure?]⟩, rfl, rfl, by simp [leftOut], fun _ => nofun⟩
  exact ends_runFrom records hstart rfl

theorem failure?_eq_none (h : ∀ left ∈ runs, left.error = none) (index : Nat) :
    failure? runs index = none := by
  cases hleft : runs[index]? with
  | none => simp [failure?, hleft]
  | some left => simpa [failure?, hleft] using h left (List.mem_of_getElem? hleft)

theorem failure?_take {index i : Nat} (hi : i < index) :
    failure? (runs.take index) i = failure? runs i := by
  rw [failure?, List.getElem?_take_of_lt hi, failure?]

/-- Where the policy leaves nothing out, all records but the rejected ones are passed on. -/
theorem filter_passes (h : ∀ left ∈ runs, left.error = none) :
    runs.filter b.passes = runs.filter fun left => !b.withholds left.value.record := by
  refine List.filter_congr fun left hleft => ?_
  simp [passes, Edited.succeeded, h left hleft]

/-- Every record of a run over many records is accounted for once. If the run comes to its end, what
is passed on is counted and in the order of the records, the failures are listed in ascending order
and are those of the fix, and each record is passed on, rejected, or left out after a failure. The
run ends early only if failures are to end it, and then at the first one, with all records before it
passed on that are not rejected. -/
theorem run_accounts (b : Batch) (records : List Record) (session : Session) :
    let runs := b.transforms 0 records session
    let done := b.run records session
    (done.error = none ↔ b.config.onError ≠ .halt ∨ ∀ i, failure? runs i = none) ∧
      (done.error = none →
        done.emitted = (runs.filter b.passes).map (·.value.record) ∧
        done.emitted.length = done.summary.emitted ∧
        (done.summary.failed.map (·.1)).Pairwise (· < ·) ∧
        (∀ index e, (index, e) ∈ done.summary.failed ↔ failure? runs index = some e) ∧
        (b.config.onError = .halt → done.summary.failed = []) ∧
        done.summary.emitted + done.summary.rejected + b.leftOut done.summary.failed =
          records.length) ∧
      ∀ err, done.error = some err →
        b.config.onError = .halt ∧ ∃ index e, err = .recordFailed index e ∧
          failure? runs index = some e ∧ (∀ i < index, failure? runs i = none) ∧
          done.emitted = ((runs.take index).filter fun left =>
            !b.withholds left.value.record).map (·.value.record) := by
  intro runs done
  rcases b.ends_run records session with ⟨h, hdone⟩ | ⟨index, e, h, hfailed, hpolicy, hdone⟩
  · have hok : done.error = none := hdone
    have hnone (hhalt : b.config.onError = .halt) (i : Nat) : failure? runs i = none :=
      failure?_eq_none (h.succeeded hhalt) i
    refine ⟨⟨fun _ => ?_, fun _ => hok⟩, fun _ => ?_, fun err herr => ?_⟩
    · by_cases hhalt : b.config.onError = .halt
      · exact .inr (hnone hhalt)
      · exact .inl hhalt
    · refine ⟨h.emitted, h.count, h.increasing, h.failed, fun hhalt => ?_, ?_⟩
      · refine List.eq_nil_iff_forall_not_mem.mpr fun f hf => ?_
        have hfailed := (h.failed f.1 f.2).mp hf
        rw [hnone hhalt] at hfailed
        cases hfailed
      · exact h.total.trans (length_transforms b 0 records session)
    · rw [hok] at herr
      cases herr
  · have herror : done.error = some (.recordFailed index e) := hdone
    have hbefore := h.succeeded hpolicy
    refine ⟨⟨fun hok => ?_, fun hor => ?_⟩, fun hok => ?_, fun err herr => ?_⟩
    · rw [herror] at hok
      cases hok
    · rcases hor with hother | hall
      · exact absurd hpolicy hother
      · rw [hall index] at hfailed
        cases hfailed
    · rw [herror] at hok
      cases hok
    · refine ⟨hpolicy, index, e, ?_, hfailed, fun i hi => ?_, ?_⟩
      · exact (Option.some_inj.mp (herror.symm.trans herr)).symm
      · rw [← failure?_take hi]
        exact failure?_eq_none hbefore i
      · rw [← filter_passes hbefore]
        exact h.emitted

/-- The fix fails on the second record and rejects the third one. -/
def shortTitleSample (onError : ErrorPolicy) : Batch where
  fix := [.ofCall "upcase" ["title"], .ofIf "all_equal" ["title", "C"] [.ofCall "reject" []]]
  config := { onError }

/-- The three policies: the failure is left out, ends the run, or is passed on. -/
theorem run_accounts_shortTitleSample :
    let records := [Value.string "a", .ofStrings ["x", "y"], .string "c"].map fun title =>
      Record.ofFields [("title", title)]
    let e : FixError := .typeMismatch .string .array
    let done (onError : ErrorPolicy) := (shortTitleSample onError).run records {}
    (done .skip).summary.emitted + (done .skip).summary.rejected + 1 = 3 ∧
      (1, e) ∈ (done .emit).summary.failed ∧ (done .emit).emitted.length = 2 ∧
      (done .halt).error = some (.recordFailed 1 e) ∧ (done .halt).emitted.length = 1 := by
  intro records e done
  have hskip := (run_accounts (shortTitleSample .skip) records {}).2.1 (by decide +kernel)
  have hemit := (run_accounts (shortTitleSample .emit) records {}).2.1 (by decide +kernel)
  have herror : (done .halt).error = some (.recordFailed 1 e) := by decide +kernel
  obtain ⟨-, index, e', herr, -, -, hhalt⟩ :=
    (run_accounts (shortTitleSample .halt) records {}).2.2 _ herror
  cases herr
  have hleft : (shortTitleSample .skip).leftOut (done .skip).summary.failed = 1 := by
    decide +kernel
  refine ⟨?_, (hemit.2.2.2.1 1 e).mpr (by decide +kernel), ?_, herror, ?_⟩
  · exact hleft ▸ hskip.2.2.2.2.2
  · exact hemit.2.1.trans (by decide +kernel)
  · exact (congrArg List.length hhalt).trans (by decide +kernel)

end Batch

end RecordFix
