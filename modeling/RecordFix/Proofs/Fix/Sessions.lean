import RecordFix.Fix.Interpreter

/-!
# Sessions that give the same answers

A table that is read from a file on demand is a table more in the session, but to a run it looks as
if it had been there all along: `Session.Agrees` says that two sessions give the same answers, and
looking for a table leads to a session that agrees (`Session.agrees_of_findMap`). Built-in functions
other than `Builtin.sessionFunctions` have nothing to do with the session at all
(`Builtin.apply_withSession`), and `lookup` sees of it no more than the answers
(`Builtin.lookup_alike`).
-/

namespace RecordFix

/-- A registry takes in a table if its file can be read. -/
theorem MapRegistry.load_eq_ok {r t : MapRegistry} {files : Files} {name path : String}
    {baseDir : Option String} {f : MapFormat} (h : r.load files name path baseDir f = .ok t) :
    ∃ m, MapFile.load files path baseDir f = .ok m ∧ t = Entries.put r name (.table m) := by
  unfold load at h
  cases hm : MapFile.load files path baseDir f with
  | error e =>
    rw [hm] at h
    cases h
  | ok m =>
    rw [hm] at h
    cases h
    exact ⟨m, rfl, rfl⟩

namespace Session

/-- What is found under the name of a table, without the session that is left behind. -/
def table? (s : Session) (name : String) : Except MapError (Option MapSource) :=
  (s.findMap name).map (·.1)

/-- The sessions give the same answers, though tables may have been read in one that have not been
read in the other. -/
structure Agrees (s t : Session) : Prop where
  vars : s.vars = t.vars
  baseDir : s.baseDir = t.baseDir
  files : s.files = t.files
  table : ∀ name, s.table? name = t.table? name

theorem Agrees.refl (s : Session) : s.Agrees s := ⟨rfl, rfl, rfl, fun _ => rfl⟩

theorem Agrees.symm {s t : Session} (h : s.Agrees t) : t.Agrees s :=
  ⟨h.vars.symm, h.baseDir.symm, h.files.symm, fun name => (h.table name).symm⟩

theorem Agrees.trans {s t u : Session} (h : s.Agrees t) (h' : t.Agrees u) : s.Agrees u :=
  ⟨h.vars.trans h'.vars, h.baseDir.trans h'.baseDir, h.files.trans h'.files,
    fun name => (h.table name).trans (h'.table name)⟩

/-- A name that is not known and may be a path is that of a file. -/
theorem table?_eq (s : Session) (name : String) :
    s.table? name =
      if !Entries.has s.maps name && isPath name then
        (MapFile.load s.files name s.baseDir {}).map fun m => some (.table m)
      else .ok (Entries.get? s.maps name) := by
  unfold table? findMap
  split
  · unfold MapRegistry.load
    cases MapFile.load s.files name s.baseDir {} with
    | ok m => exact congrArg Except.ok (Entries.get?_put_self _ _ _)
    | error e => rfl
  · rfl

/-- The session with a table registered. -/
def register (s : Session) (name : String) (m : Mapping) : Session :=
  { s with maps := Entries.put s.maps name (.table m) }

/-- The table of this name is not known, but there is a file for it that can be read. -/
structure CanRead (s : Session) (name : String) (m : Mapping) : Prop where
  isNew : Entries.get? s.maps name = none
  isPath : isPath name = true
  loads : MapFile.load s.files name s.baseDir {} = .ok m

/-- Looking for a table registers it if it can be read, and changes nothing otherwise. -/
theorem findMap_eq_ok {s t : Session} {name : String} {source : Option MapSource}
    (h : s.findMap name = .ok (source, t)) :
    t = s ∨ ∃ m, s.CanRead name m ∧ t = s.register name m := by
  unfold findMap at h
  split at h
  · rename_i hread
    rw [Bool.and_eq_true, Bool.not_eq_true', Entries.has_eq_isSome_get?,
      Option.isSome_eq_false_iff, Option.isNone_iff_eq_none] at hread
    cases hload : s.maps.load s.files name name s.baseDir {} with
    | error e =>
      rw [hload] at h
      cases h
    | ok maps =>
      rw [hload] at h
      cases h
      obtain ⟨m, hm, rfl⟩ := MapRegistry.load_eq_ok hload
      exact .inr ⟨m, ⟨hread.1, hread.2, hm⟩, rfl⟩
  · cases h
    exact .inl rfl

/-- A table that has been looked for may be in the session afterwards; the answers stay the same. -/
theorem agrees_of_findMap {s t : Session} {name : String} {m : Option MapSource}
    (h : s.findMap name = .ok (m, t)) : s.Agrees t := by
  rcases findMap_eq_ok h with rfl | ⟨read, hread, rfl⟩
  · exact .refl _
  · refine ⟨rfl, rfl, rfl, fun other => ?_⟩
    rw [table?_eq, table?_eq, Entries.has_eq_isSome_get?, Entries.has_eq_isSome_get?, register]
    by_cases hother : other = name
    · subst hother
      rw [hread.isNew, hread.isPath, hread.loads, Entries.get?_put_self]
      rfl
    · rw [Entries.get?_put_of_ne hother]

/-- Sessions that agree fail to find a table for the same reason, or find the same one. -/
theorem findMap_of_agrees {r s t : Session} (hs : r.Agrees s) (ht : r.Agrees t) (name : String) :
    (∃ e, s.findMap name = .error e ∧ t.findMap name = .error e) ∨
      ∃ m s' t', s.findMap name = .ok (m, s') ∧ t.findMap name = .ok (m, t') ∧
        r.Agrees s' ∧ r.Agrees t' := by
  have htable := (hs.symm.trans ht).table name
  unfold table? at htable
  rcases hfound : s.findMap name with e | ⟨m, s'⟩ <;>
    rcases hfound' : t.findMap name with e' | ⟨m', t'⟩ <;>
    simp only [hfound, hfound', Except.map, reduceCtorEq, Except.error.injEq,
      Except.ok.injEq] at htable <;> subst htable
  · exact .inl ⟨_, rfl, rfl⟩
  · exact .inr ⟨_, _, _, rfl, rfl, hs.trans (agrees_of_findMap hfound),
      ht.trans (agrees_of_findMap hfound')⟩

end Session

/-! ## Functions without a session -/

/-- The state with another session. -/
def State.withSession (s : State) (session : Session) : State := { s with session }

/-- The functions that read or change the session. -/
def Builtin.sessionFunctions : List Builtin :=
  [.random, .putMap, .putFilemap, .putVar, .putVars, .lookup]

theorem Edited.map_andThen {α : Type} (g : α → α) (e : Edited α) (next : α → Edited α)
    (h : ∀ a, next (g a) = (next a).map g) : (e.map g).andThen next = (e.andThen next).map g := by
  cases herror : e.error with
  | none => rw [andThen_of_none herror, andThen_of_none ((map_error g e).trans herror), ← h]; rfl
  | some err => rw [andThen_of_some herror, andThen_of_some ((map_error g e).trans herror)]

theorem bind_eq_map_bind {α β γ : Type} {w : β → γ} (x : Except FixError α)
    {f : α → Except FixError β} {f' : α → Except FixError γ} (h : ∀ a, f' a = (f a).map w) :
    x >>= f' = (x >>= f).map w := by
  cases x with
  | ok a => exact h a
  | error e => rfl

namespace Builtin

variable (params : List String) (options : Options) (s : State) (session : Session)

/-- All but the functions for the session hand it on as they have got it. -/
theorem outcome_withSession {f : Builtin} (hf : f ∉ sessionFunctions) :
    f.outcome params options (s.withSession session) =
      (f.outcome params options s).map (·.map (·.withSession session)) := by
  cases f with
  | random | putMap | putFilemap | putVar | putVars | lookup => exact absurd (by decide) hf
  | removeField | retain | vacuum | reject | nothing => rfl
  | setArray | setHash | paste | hash | array | upcase | downcase | capitalize | trim | count |
      joinField | sortField | sum | uniq | reverse | flatten =>
    exact bind_eq_map_bind _ fun _ => rfl
  | addField | setField | copyField | append | prepend | index | format =>
    exact bind_eq_map_bind _ fun _ => bind_eq_map_bind _ fun _ => rfl
  | moveField =>
    refine bind_eq_map_bind _ fun source => bind_eq_map_bind _ fun target => ?_
    let copied := s.editRecord (·.copy (Path.ofString source) (Path.ofString target))
    let remove (s : State) : Edited State :=
      s.editFields fun fields => ⟨fields.removePath (Path.ofString source), none⟩
    have hmoved : (copied.map (·.withSession session)).andThen remove =
        (copied.andThen remove).map (·.withSession session) :=
      Edited.map_andThen _ _ _ fun _ => rfl
    exact congrArg Except.ok hmoved
  | parseText | filter | splitField =>
    exact bind_eq_map_bind _ fun _ => bind_eq_map_bind _ fun _ => bind_eq_map_bind _ fun _ => rfl
  | replaceAll =>
    exact bind_eq_map_bind _ fun _ => bind_eq_map_bind _ fun _ => bind_eq_map_bind _ fun _ =>
      bind_eq_map_bind _ fun _ => rfl
  | rename =>
    refine bind_eq_map_bind _ fun path => bind_eq_map_bind _ fun _ => bind_eq_map_bind _ fun _ =>
      bind_eq_map_bind _ fun _ => ?_
    by_cases hpath : path = wholeRecord
    · simp only [hpath, if_true]
      rfl
    · simp only [hpath, if_false]
      rfl
  | substring =>
    exact bind_eq_map_bind _ fun _ => bind_eq_map_bind _ fun _ => bind_eq_map_bind _ fun _ =>
      bind_eq_map_bind _ fun _ => bind_eq_map_bind _ fun _ => rfl

theorem apply_withSession {f : Builtin} (hf : f ∉ sessionFunctions) :
    f.apply params options (s.withSession session) =
      (f.apply params options s).map (·.withSession session) := by
  rw [apply, apply, outcome_withSession params options s session hf]
  cases f.outcome params options s with
  | ok left => rfl
  | error err => rfl

/-- All but the functions for the session leave it as it is. -/
theorem session_apply {f : Builtin} (hf : f ∉ sessionFunctions) :
    (f.apply params options s).value.session = s.session := by
  have h : f.apply params options s = (f.apply params options s).map (·.withSession s.session) :=
    apply_withSession params options s s.session hf
  rw [h]
  rfl

end Builtin

/-! ## Looking values up -/

/-- The two states have the same record, and their sessions give the answers of `r`. -/
structure State.Alike (r : Session) (s t : State) : Prop where
  left : r.Agrees s.session
  right : r.Agrees t.session
  record : s.record = t.record

/-- Both fail in the same way or not at all, and leave alike states behind. -/
structure Edited.Alike (r : Session) (left right : Edited State) : Prop where
  value : left.value.Alike r right.value
  error : left.error = right.error

theorem Tables.source_of_agrees {r s t : Session} (hs : r.Agrees s) (ht : r.Agrees t)
    (name : Option String) (options : Options) :
    (∃ e, source s name options = .error e ∧ source t name options = .error e) ∨
      ∃ m s' t', source s name options = .ok (m, s') ∧ source t name options = .ok (m, t') ∧
        r.Agrees s' ∧ r.Agrees t' := by
  cases name with
  | none => exact .inr ⟨_, s, t, rfl, rfl, hs, ht⟩
  | some n =>
    unfold source
    rcases Session.findMap_of_agrees hs ht n with ⟨e, h, h'⟩ | ⟨m, s', t', h, h', hs', ht'⟩
    · simp only [h, h']
      exact .inl ⟨_, rfl, rfl⟩
    · simp only [h, h']
      exact .inr ⟨_, _, _, rfl, rfl, hs', ht'⟩

/-- What `lookup` does depends on the answers of the session only. -/
theorem Builtin.lookup_alike {r : Session} {s t : State} (h : s.Alike r t) (params : List String)
    (options : Options) :
    (Builtin.lookup.apply params options s).Alike r (Builtin.lookup.apply params options t) := by
  cases hpath : Arguments.param Builtin.lookup.name params 0 with
  | error e =>
    simp only [apply, outcome, hpath]
    exact ⟨h, rfl⟩
  | ok path =>
    obtain ⟨session, record⟩ := s
    obtain ⟨session', _⟩ := t
    obtain ⟨hs, ht, rfl⟩ := h
    rcases Tables.source_of_agrees hs ht params[1]? options with
      ⟨e, hfound, hfound'⟩ | ⟨m, s', t', hfound, hfound', hs', ht'⟩
    · simp only [apply, outcome, hpath, hfound, hfound']
      exact ⟨⟨hs, ht, rfl⟩, rfl⟩
    · simp only [apply, outcome, hpath, hfound, hfound']
      exact ⟨⟨hs', ht', rfl⟩, rfl⟩

end RecordFix
