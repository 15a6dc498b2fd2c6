import RecordFix.Proofs.Fix.Composition
import RecordFix.Proofs.Fix.Operations
import RecordFix.Proofs.Fix.Sessions

/-!
# What a run does to the session

`Builtin.Changes` says all that a call of a function can do to the session: draw a random number,
set variables, register a table, or read one from a file. What holds of each of these changes, and
of one change after another, holds of a whole run (`Fix.session_run_of_changes`). So a run loses no
variable and no table, and what it sets or registers can be told from the functions that are called
in the fix (`Fix.session_run`). A table that cannot be read is not registered.
-/

namespace RecordFix

/-- None of the calls in the fix is of a function of these names. -/
def Fix.Lacks (fix : Fix) (names : List String) : Prop :=
  ∀ i, .call i ∈ Expression.nodesOf fix → i.name ∉ names

/-! ## What a call does -/

namespace Session

/-- Drawing a random number changes nothing but which one is the next. -/
theorem draw_eq (s : Session) (bound : Nat) : ∃ n chance, s.draw bound = (n, { s with chance }) :=
  ⟨_, _, rfl⟩

end Session

/-- What a call of a function can do to the session. -/
inductive Builtin.Changes (s : Session) : Builtin → Session → Prop
  | nothing (f : Builtin) : Changes s f s
  | draws (chance : Chance) : Changes s .random { s with chance }
  | setsVar (name text : String) : Changes s .putVar (s.putVar name text)
  | setsVars (options : Options) :
      Changes s .putVars (options.foldl (fun t o => t.putVar o.1 o.2) s)
  | registers (name : String) (m : Mapping) : Changes s .putMap (s.register name m)
  | loads {path : String} {f : MapFormat} {m : Mapping} (name : String)
      (h : MapFile.load s.files path s.baseDir f = .ok m) :
      Changes s .putFilemap (s.register name m)
  | reads {name : String} {m : Mapping} (h : s.CanRead name m) :
      Changes s .lookup (s.register name m)

theorem Tables.translate_ne_map (table : Option MapSource) (delete : Bool) (v : Value)
    (cause : MapError) : translate table delete v ≠ .error (.map cause) := by
  cases v with
  | array | hash => nofun
  | string key =>
    dsimp only [translate, Value.asString, bind, Except.bind]
    split <;> nofun

namespace Builtin

open Arguments

/-- What a call of the function may do to the session. A call that fails because a table cannot be
loaded registers nothing. -/
structure SessionSpec (f : Builtin) (s : State) (left : Edited State) : Prop where
  changes : f.Changes s.session left.value.session
  maps (cause : MapError) (h : left.error = some (.map cause)) :
    left.value.session.maps = s.session.maps

theorem SessionSpec.of_session {f : Builtin} {s : State} {left : Edited State}
    (h : left.value.session = s.session) : f.SessionSpec s left :=
  ⟨h ▸ .nothing f, fun _ _ => congrArg Session.maps h⟩

variable (params : List String) (options : Options) (s : State)

theorem gives_source_changes (session : Session) (name : Option String) :
    Gives (Tables.source session name options) fun found =>
      Builtin.lookup.Changes session found.2 := by
  refine gives_of_ok (Tables.gives_source session name options) fun found hsource => ?_
  unfold Tables.source at hsource
  split at hsource
  · cases hsource
    exact .nothing _
  · split at hsource
    · next hfound =>
      cases hsource
      rcases Session.findMap_eq_ok hfound with hsame | ⟨m, hread, hregister⟩
      · exact hsame ▸ .nothing _
      · exact hregister ▸ .reads hread
    · cases hsource

theorem gives_load_changes (session : Session) (name path : String) (f : MapFormat) :
    Gives (Tables.load session name path f) fun t => Builtin.putFilemap.Changes session t := by
  refine gives_of_ok (Tables.gives_load session name path f) fun t hload => ?_
  unfold Tables.load at hload
  split at hload
  · next hmaps =>
    cases hload
    obtain ⟨m, hm, rfl⟩ := MapRegistry.load_eq_ok hmaps
    exact .loads name hm
  · cases hload

theorem gives_outcome_sessionSpec {f : Builtin} (hf : f ∈ sessionFunctions) :
    Gives (f.outcome params options s) (f.SessionSpec s) := by
  simp only [sessionFunctions, List.mem_cons, List.not_mem_nil, or_false] at hf
  rcases hf with rfl | rfl | rfl | rfl | rfl | rfl
  · refine gives_param_bind fun _ => gives_param_bind fun _ => gives_integer_bind fun bound => ?_
    by_cases hbound : bound ≤ 0
    · rw [if_pos hbound]
      exact trivial
    · obtain ⟨n, chance, hdraw⟩ := s.session.draw_eq bound.toNat
      rw [if_neg hbound, hdraw]
      exact gives_pure ⟨.draws chance, fun _ _ => rfl⟩
  · exact gives_param_bind fun _ => gives_pure ⟨.registers _ _, nofun⟩
  · exact gives_param_bind fun _ => gives_bind (Tables.gives_format options) fun _ _ =>
      gives_bind (gives_load_changes _ _ _ _) fun _ hload => gives_pure ⟨hload, nofun⟩
  · exact gives_param_bind fun _ => gives_param_bind fun _ => gives_pure ⟨.setsVar _ _, nofun⟩
  · exact gives_pure ⟨.setsVars _, nofun⟩
  · refine gives_param_bind fun _ => gives_bind (gives_source_changes _ _ _) fun found hsource =>
      gives_pure ⟨hsource, fun cause herror => ?_⟩
    -- the table has been found, so what fails is the translation of a value
    obtain ⟨v, hv⟩ := Hash.exists_error_of_transform herror
    exact absurd hv (Tables.translate_ne_map _ _ v cause)

theorem sessionSpec_apply (f : Builtin) : f.SessionSpec s (f.apply params options s) := by
  by_cases hf : f ∈ sessionFunctions
  · have houtcome := gives_outcome_sessionSpec params options s hf
    unfold apply
    cases heq : f.outcome params options s with
    | error e => exact .of_session rfl
    | ok left =>
      rw [heq] at houtcome
      exact houtcome
  · exact .of_session (session_apply params options s hf)

end Builtin

/-- Without extensions a call leaves the session as it is, or treats it as a built-in function of
that name does. -/
theorem State.session_call (s : State) (i : Invocation) :
    (s.call {} i).value.session = s.session ∨
      ∃ f : Builtin, f.name = i.name ∧ f.SessionSpec s (s.call {} i) := by
  unfold call
  rw [Extensions.inSession_empty]
  dsimp only
  split
  · split
    · next hf => cases hf
    · exact .inl rfl
  · split
    · next f hf => exact .inr ⟨f, Builtin.name_of_named? hf, Builtin.sessionSpec_apply _ _ _ f⟩
    · exact .inl rfl

/-! ## From calls to runs -/

section Run

variable {P : Session → Session → Prop}

theorem compositional_session (hrefl : ∀ s, P s s) (htrans : ∀ {s t u}, P s t → P t u → P s u) :
    Compositional fun (s : State) (left : Edited State) => P s.session left.value.session where
  skip s := hrefl s.session
  fail s _ _ := hrefl s.session
  andThen hfirst hnext := by
    refine Edited.andThen_elim (P := fun left : Edited State => P _ left.value.session)
      (fun _ => htrans hfirst (hnext _)) fun _ _ => hfirst
  fields _ _ h := h
  scope h := h

/-- What holds of no change, of one change after another, and of every change that a function in the
fix can make, holds of a run without extensions. -/
theorem Fix.session_run_of_changes (hrefl : ∀ s, P s s)
    (htrans : ∀ {s t u}, P s t → P t u → P s u) {fix : Fix}
    (hcalls : ∀ i, .call i ∈ Expression.nodesOf fix → ∀ f : Builtin, f.name = i.name →
      ∀ s t, f.Changes s t → P s t) (s : State) :
    P s.session (fix.run {} s).value.session := by
  refine Expression.runAll_of_local (compositional_session hrefl htrans) fix (fun x hx => ?_) s
  cases x with
  | call i =>
    intro t
    rcases t.session_call i with hsame | ⟨f, hf, hspec⟩
    · show P t.session (t.call {} i).value.session
      rw [hsame]
      exact hrefl _
    · exact hcalls i hx f hf _ _ hspec.changes
  | bind i body => exact fun _ t => hrefl t.session
  | ifElse i body elsif otherwise =>
    exact ⟨fun t _ _ => hrefl t.session, fun _ _ t _ _ => hrefl t.session⟩
  | ifNot i body => exact fun t _ _ => hrefl t.session

end Run

/-! ## What is never lost -/

namespace Session

variable {s t u : Session}

/-- The base directory is the same, and all variables and tables are still there. -/
structure Grows (s t : Session) : Prop where
  baseDir : t.baseDir = s.baseDir
  vars : Entries.names s.vars ⊆ Entries.names t.vars
  maps : Entries.names s.maps ⊆ Entries.names t.maps

theorem Grows.refl (s : Session) : s.Grows s :=
  ⟨rfl, List.Subset.refl _, List.Subset.refl _⟩

theorem Grows.trans (h : s.Grows t) (h' : t.Grows u) : s.Grows u :=
  ⟨h'.baseDir.trans h.baseDir, List.Subset.trans h.vars h'.vars, List.Subset.trans h.maps h'.maps⟩

theorem grows_putVar (s : Session) (name text : String) : s.Grows (s.putVar name text) :=
  ⟨rfl, Entries.names_subset_names_put _ _ _, List.Subset.refl _⟩

theorem grows_register (s : Session) (name : String) (m : Mapping) : s.Grows (s.register name m) :=
  ⟨rfl, List.Subset.refl _, Entries.names_subset_names_put _ _ _⟩

/-- Setting several variables changes the variables only, and none is lost. -/
theorem foldl_putVar_eq (options : Options) (s : Session) :
    ∃ vars, options.foldl (fun t o => t.putVar o.1 o.2) s = { s with vars } ∧
      Entries.names s.vars ⊆ Entries.names vars := by
  induction options generalizing s with
  | nil => exact ⟨s.vars, rfl, List.Subset.refl _⟩
  | cons o rest ih =>
    obtain ⟨vars, heq, hvars⟩ := ih (s.putVar o.1 o.2)
    exact ⟨vars, heq, List.Subset.trans (Entries.names_subset_names_put _ _ _) hvars⟩

theorem grows_of_changes {f : Builtin} (h : f.Changes s t) : s.Grows t := by
  cases h with
  | nothing => exact .refl s
  | draws chance => exact ⟨rfl, List.Subset.refl _, List.Subset.refl _⟩
  | setsVar name text => exact grows_putVar s name text
  | setsVars options =>
    obtain ⟨vars, heq, hvars⟩ := foldl_putVar_eq options s
    rw [heq]
    exact ⟨rfl, hvars, List.Subset.refl _⟩
  | registers name m => exact grows_register s name m
  | loads name _ => exact grows_register s name _
  | reads _ => exact grows_register s _ _

/-- No built-in function registers a function or predicate, or takes one back. -/
theorem registry_of_changes {f : Builtin} (h : f.Changes s t) : t.registry = s.registry := by
  cases h with
  | setsVars options =>
    obtain ⟨vars, heq, -⟩ := foldl_putVar_eq options s
    rw [heq]
  | nothing | draws | setsVar | registers | loads | reads => rfl

/-! ## Where new tables come from -/

/-- The table is one that a file gives. -/
def OfFile (s : Session) (_name : String) (m : Mapping) : Prop :=
  ∃ path f, MapFile.load s.files path s.baseDir f = .ok m

/-- Every table is what it was, but for new ones with a given origin. -/
structure TakesIn (origin : Session → String → Mapping → Prop) (s t : Session) : Prop where
  baseDir : t.baseDir = s.baseDir
  files : t.files = s.files
  table (name : String) : Entries.get? t.maps name = Entries.get? s.maps name ∨
    ∃ m, origin s name m ∧ Entries.get? t.maps name = some (.table m)

variable {origin : Session → String → Mapping → Prop}

theorem TakesIn.refl (s : Session) : s.TakesIn origin s := ⟨rfl, rfl, fun _ => .inl rfl⟩

theorem TakesIn.trans (h : s.TakesIn origin t) (h' : t.TakesIn origin u)
    (horigin : ∀ name m, origin t name m → origin s name m) : s.TakesIn origin u := by
  refine ⟨h'.baseDir.trans h.baseDir, h'.files.trans h.files, fun name => ?_⟩
  rcases h'.table name with hsame | ⟨m, hm, htable⟩
  · rw [hsame]
    exact h.table name
  · exact .inr ⟨m, horigin name m hm, htable⟩

theorem takesIn_register {name : String} {m : Mapping} (h : origin s name m) :
    s.TakesIn origin (s.register name m) := by
  refine ⟨rfl, rfl, fun other => ?_⟩
  by_cases hother : other = name
  · subst hother
    exact .inr ⟨m, h, Entries.get?_put_self _ _ _⟩
  · exact .inl (Entries.get?_put_of_ne hother _ _)

/-- A call takes in no tables but those it registers, reads from a file on demand or loads. -/
theorem takesIn_of_changes {f : Builtin} (h : f.Changes s t)
    (hregisters : ∀ name m, f = .putMap → origin s name m)
    (hloads : ∀ name m, f = .putFilemap → s.OfFile name m → origin s name m)
    (hreads : ∀ name m, s.CanRead name m → origin s name m) : s.TakesIn origin t := by
  cases h with
  | nothing => exact .refl s
  | draws chance => exact ⟨rfl, rfl, fun _ => .inl rfl⟩
  | setsVar name text => exact ⟨rfl, rfl, fun _ => .inl rfl⟩
  | setsVars options =>
    obtain ⟨vars, heq, -⟩ := foldl_putVar_eq options s
    rw [heq]
    exact ⟨rfl, rfl, fun _ => .inl rfl⟩
  | registers name m => exact takesIn_register (hregisters name m rfl)
  | loads name hm => exact takesIn_register (hloads name _ rfl ⟨_, _, hm⟩)
  | reads hread => exact takesIn_register (hreads _ _ hread)

theorem TakesIn.ofFile_trans (h : s.TakesIn OfFile t) (h' : t.TakesIn OfFile u) :
    s.TakesIn OfFile u := by
  refine h.trans h' fun name m hm => ?_
  unfold OfFile at hm ⊢
  rwa [h.files, h.baseDir] at hm

/-- A table that can be read later on could be read before: it would be known otherwise. -/
theorem TakesIn.canRead_trans (h : s.TakesIn CanRead t) (h' : t.TakesIn CanRead u) :
    s.TakesIn CanRead u := by
  refine h.trans h' fun name m hm => ⟨?_, hm.isPath, ?_⟩
  · rcases h.table name with hsame | ⟨read, -, htable⟩
    · rw [← hsame]
      exact hm.isNew
    · exact absurd (hm.isNew.symm.trans htable) nofun
  · rw [← h.files, ← h.baseDir]
    exact hm.loads

end Session

/-! ## Runs -/

/-- A call of a function that is not one of these does not set variables. -/
theorem Session.vars_of_changes {s t : Session} {f : Builtin} (h : f.Changes s t)
    (hf : f.name ∉ ["put_var", "put_vars"]) : t.vars = s.vars := by
  cases h with
  | setsVar | setsVars => exact absurd (by decide) hf
  | nothing | draws | registers | loads | reads => rfl

namespace Fix

variable {fix : Fix}

theorem vars_run (hfix : fix.Lacks ["put_var", "put_vars"]) (s : State) :
    (fix.run {} s).value.session.vars = s.session.vars :=
  session_run_of_changes (P := fun s t => t.vars = s.vars) (fun _ => rfl)
    (fun h h' => h'.trans h)
    (fun i hi _ hname _ _ h => Session.vars_of_changes h (hname ▸ hfix i hi)) s

theorem takesIn_ofFile_run (hfix : fix.Lacks ["put_map"]) (s : State) :
    s.session.TakesIn Session.OfFile (fix.run {} s).value.session := by
  refine session_run_of_changes (P := Session.TakesIn Session.OfFile) .refl
    Session.TakesIn.ofFile_trans
    (fun i hi f hname _ _ h => Session.takesIn_of_changes h (fun _ _ hf => ?_)
      (fun _ _ _ hm => hm) fun name _ hread => ⟨name, {}, hread.loads⟩) s
  subst hf
  exact absurd (hname ▸ by decide) (hfix i hi)

theorem takesIn_canRead_run (hfix : fix.Lacks ["put_map", "put_filemap"]) (s : State) :
    s.session.TakesIn Session.CanRead (fix.run {} s).value.session := by
  refine session_run_of_changes (P := Session.TakesIn Session.CanRead) .refl
    Session.TakesIn.canRead_trans
    (fun i hi f hname _ _ h => Session.takesIn_of_changes h (fun _ _ hf => ?_)
      (fun _ _ hf _ => ?_) fun _ _ hread => hread) s
  all_goals
    subst hf
    exact absurd (hname ▸ by decide) (hfix i hi)

/-- What a run without extensions does to the session, however far it comes. The base directory
stays and no variable and no table is lost; variables are set by `put_var` and `put_vars` only.
Without `put_map` and `put_filemap` all tables stay what they are, and a new one has a name that may
be a path and is what the file there gives; without `put_map` all new tables still come from files.
A call that fails because a table cannot be loaded registers nothing. -/
theorem session_run (fix : Fix) (s : State) :
    let before := s.session
    let after := (fix.run {} s).value.session
    before.Grows after ∧
      (fix.Lacks ["put_var", "put_vars"] → after.vars = before.vars) ∧
      (fix.Lacks ["put_map", "put_filemap"] →
        (∀ name ∈ Entries.names before.maps,
          Entries.get? after.maps name = Entries.get? before.maps name) ∧
        ∀ name ∈ Entries.names after.maps, name ∉ Entries.names before.maps →
          Session.isPath name = true ∧
            ∃ m, MapFile.load before.files name before.baseDir {} = .ok m ∧
              Entries.get? after.maps name = some (.table m)) ∧
      (fix.Lacks ["put_map"] → before.TakesIn Session.OfFile after) ∧
      ∀ (t : State) (i : Invocation) (cause : MapError),
        (t.call {} i).error = some (.map cause) →
          (t.call {} i).value.session.maps = t.session.maps := by
  intro before after
  have hgrows : before.Grows after :=
    session_run_of_changes .refl .trans (fun _ _ _ _ _ _ h => Session.grows_of_changes h) s
  refine ⟨hgrows, fun hfix => vars_run hfix s, fun hfix => ⟨fun name hname => ?_,
    fun name hname hnew => ?_⟩, fun hfix => takesIn_ofFile_run hfix s, fun t i cause herror => ?_⟩
  · rcases (takesIn_canRead_run hfix s).table name with hsame | ⟨m, hread, -⟩
    · exact hsame
    · exact absurd hname (Entries.get?_eq_none_iff.mp hread.isNew)
  · rcases (takesIn_canRead_run hfix s).table name with hsame | ⟨m, hread, htable⟩
    · rw [← Entries.get?_eq_none_iff, ← hsame] at hnew
      exact absurd hname (Entries.get?_eq_none_iff.mp hnew)
    · exact ⟨hread.isPath, m, hread.loads, htable⟩
  · rcases t.session_call i with hsame | ⟨f, -, hspec⟩
    · rw [hsame]
    · exact hspec.maps cause herror

end Fix

/-! ## A run that fails to read a second table -/

/-- A session with a file of months. -/
def Session.monthSample : Session where
  baseDir := some "/maps"
  files := { entry := fun path =>
    if path = "/maps/months.tsv" then .file "1\tJanuary".toUTF8.toList else .missing }

/-- The table that could be read is there after the run, and no other. -/
theorem Fix.session_run_monthSample :
    let fix : Fix :=
      [.ofCall "lookup" ["month", "months.tsv"], .ofCall "lookup" ["day", "days.tsv"]]
    let record := Record.ofFields [("month", .string "1"), ("day", .string "2")]
    let left := fix.run {} ⟨Session.monthSample, record⟩
    (left.error = some (.map (.fileNotFound "/maps/days.tsv")) ∧
      left.value.session.maps.names = ["months.tsv"]) ∧
      fix.Lacks ["put_var", "put_vars"] ∧ left.value.session.vars = [] ∧
      fix.Lacks ["put_map", "put_filemap"] ∧
      ∀ name ∈ left.value.session.maps.names, Session.isPath name = true := by
  intro fix record left
  have hlacks (names : List String) (hnames : "lookup" ∉ names) : fix.Lacks names := by
    intro i hi
    simp only [fix, Expression.ofCall, Expression.nodesOf, Expression.nodes, List.mem_append,
      List.mem_singleton, Expression.call.injEq, List.not_mem_nil, or_false] at hi
    rcases hi with rfl | rfl <;> exact hnames
  obtain ⟨-, hvars, hmaps, -⟩ := session_run fix ⟨Session.monthSample, record⟩
  refine ⟨⟨by decide +kernel, by decide +kernel⟩, hlacks _ (by decide),
    hvars (hlacks _ (by decide)), hlacks _ (by decide), fun name hname => ?_⟩
  exact ((hmaps (hlacks _ (by decide))).2 name hname List.not_mem_nil).1

end RecordFix
