import RecordFix.Fix.Builtin
import RecordFix.Fix.Predicate

/-!
# Extensions

A host may add functions and predicates. Their names hold a dot, which sets them apart from the
built-in ones. What is registered under a name is part of the session: a function of the host is
given the session and may register others, or take back what is registered.
-/

namespace RecordFix

/-- A function that a host adds. -/
abbrev ExtensionFunction := List String → Options → State → Edited State

/-- A predicate that a host adds. -/
abbrev ExtensionPredicate := List String → Options → State → Except FixError Bool

/-- The functions and predicates that a host adds, by the names that the host has for them. -/
structure Extensions where
  functions : Entries ExtensionFunction := []
  predicates : Entries ExtensionPredicate := []

/-- Whether the name is one of an extension. -/
def isNamespaced (name : String) : Bool := name.toList.contains '.'

namespace Extensions

/-- The name of an extension, which must hold a dot. -/
def checkName (name : String) : Except FixError Unit :=
  if isNamespaced name then .ok ()
  else .error (.invalidArgument name "extension names must contain a namespace separator")

/-- Adds a function. -/
def addFunction (e : Extensions) (name : String) (f : ExtensionFunction) :
    Except FixError Extensions := do
  checkName name
  pure { e with functions := Entries.put e.functions name f }

/-- Adds a predicate. -/
def addPredicate (e : Extensions) (name : String) (p : ExtensionPredicate) :
    Except FixError Extensions := do
  checkName name
  pure { e with predicates := Entries.put e.predicates name p }

/-- What a name stands for among these. -/
def lookUp {α : Type} (operations : Entries α) (name : String) : Except FixError α :=
  match Entries.get? operations name with
  | some operation => .ok operation
  | none => .error (.unknownOperation name)

/-- The function of this name. -/
def function (e : Extensions) (name : String) : Except FixError ExtensionFunction :=
  lookUp e.functions name

/-- The predicate of this name. -/
def predicate (e : Extensions) (name : String) : Except FixError ExtensionPredicate :=
  lookUp e.predicates name

/-- What is registered under names, each of which comes with the name that the host has for it. -/
def registeredAs {α : Type} (operations : Entries α) (names : Entries String) : Entries α :=
  names.filterMap fun (name, own) => (Entries.get? operations own).map fun operation =>
    (name, operation)

/-- The functions and predicates that are registered in a session, by the names for them there. -/
def inSession (e : Extensions) (s : Session) : Extensions :=
  match s.registry with
  | none => e
  | some r =>
    { functions := registeredAs e.functions r.functions
      predicates := registeredAs e.predicates r.predicates }

theorem lookUp_of_error {α : Type} {operations : Entries α} {name : String} {err : FixError}
    (h : lookUp operations name = .error err) :
    err = .unknownOperation name ∧ Entries.has operations name = false := by
  unfold lookUp at h
  split at h
  · cases h
  · rename_i hnone
    cases h
    exact ⟨rfl, by rw [Entries.has_eq_isSome_get?, hnone]; rfl⟩

theorem lookUp_singleton {α : Type} {operation other : α} {own name : String}
    (h : lookUp [(own, operation)] name = .ok other) : other = operation := by
  simp only [lookUp, Entries.get?_cons, Entries.get?_nil] at h
  split at h <;> simp_all

theorem lookUp_registeredAs {α : Type} {operations : Entries α} {names : Entries String}
    {name : String} {operation : α}
    (h : lookUp (registeredAs operations names) name = .ok operation) :
    ∃ own, lookUp operations own = .ok operation := by
  unfold lookUp at h
  split at h
  · rename_i hget
    cases h
    obtain ⟨entry, -, hentry⟩ := List.mem_filterMap.mp (Entries.mem_of_get?_eq hget)
    obtain ⟨_, hown, heq⟩ := Option.map_eq_some_iff.mp hentry
    cases heq
    exact ⟨entry.2, by rw [lookUp, hown]⟩
  · cases h

/-- What is registered as a function in a session is a function of the host. -/
theorem function_of_inSession {e : Extensions} {s : Session} {name : String}
    {f : ExtensionFunction} (h : (e.inSession s).function name = .ok f) :
    ∃ own, e.function own = .ok f := by
  unfold inSession at h
  split at h
  · exact ⟨name, h⟩
  · exact lookUp_registeredAs h

/-- What is registered as a predicate in a session is a predicate of the host. -/
theorem predicate_of_inSession {e : Extensions} {s : Session} {name : String}
    {p : ExtensionPredicate} (h : (e.inSession s).predicate name = .ok p) :
    ∃ own, e.predicate own = .ok p := by
  unfold inSession at h
  split at h
  · exact ⟨name, h⟩
  · exact lookUp_registeredAs h

@[simp] theorem inSession_empty (s : Session) : ({} : Extensions).inSession s = {} := by
  unfold inSession
  split
  · rfl
  · simp [registeredAs]

/-- Whether there is a function of this name, built-in or added. -/
def hasFunction (e : Extensions) (name : String) : Bool :=
  if isNamespaced name then Entries.has e.functions name else (Builtin.named? name).isSome

/-- Whether there is a predicate of this name, built-in or added. -/
def hasPredicate (e : Extensions) (name : String) : Bool :=
  if isNamespaced name then Entries.has e.predicates name else (Predicate.named? name).isSome

end Extensions

end RecordFix
