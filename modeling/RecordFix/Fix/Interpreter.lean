import RecordFix.Fix.Check

/-!
# Carrying out a fix

Expressions are carried out in order until one fails; what was changed before stays changed.
Variables in parameters and options are replaced right before a function or predicate is invoked.

The block `list` is carried out for every item of an array. With the option `var` the item is a
field of the record for the time being; without it the item must be a hash and is the record for the
time being. If the path of the array is direct, the item is put back in its place afterwards.
-/

namespace RecordFix

namespace Invocation

/-- The parameters with variables replaced. -/
def resolvedParams (i : Invocation) (s : Session) : List String := i.params.map s.resolve

/-- The options with variables replaced. -/
def resolvedOptions (i : Invocation) (s : Session) : Options :=
  i.optionTable.map fun (key, text) => (key, s.resolve text)

end Invocation

namespace State

/-- Calls a function. -/
def call (s : State) (e : Extensions) (i : Invocation) : Edited State :=
  let params := i.resolvedParams s.session
  let options := i.resolvedOptions s.session
  if isNamespaced i.name then
    match (e.inSession s.session).function i.name with
    | .ok f => f params options s
    | .error error => ⟨s, some error⟩
  else
    match Builtin.named? i.name with
    | some f => f.apply params options s
    | none => ⟨s, some (.unknownOperation i.name)⟩

/-- Tests a predicate. -/
def test (s : State) (e : Extensions) (i : Invocation) : Except FixError Bool :=
  let params := i.resolvedParams s.session
  let options := i.resolvedOptions s.session
  if isNamespaced i.name then
    match (e.inSession s.session).predicate i.name with
    | .ok p => p params options s
    | .error error => .error error
  else
    match Predicate.named? i.name with
    | some p => p.test s.record params
    | none => .error (.unknownOperation i.name)

/-- Puts an item back in its place in the array at a direct path, if the place is still there. -/
def putBack (s : State) (path : Path) (index : Nat) (v : Value) : State :=
  let fields := s.record.fields.modifyArray path fun items => items.set index v
  { s with record := { s.record with fields } }

/-- The state with an item as a field of the record. -/
def withField (s : State) (var : String) (item : Value) : State :=
  { s with record := { s.record with fields := Entries.put s.record.fields var item } }

/-- The state with the fields of an item as the record. -/
def withRecord (s : State) (fields : Hash) : State := { s with record := .ofFields fields }

/-- Carries out a body with an item as a field of the record. Gives the item as it is afterwards, if
it is still there. -/
def withItem (body : State → Edited State) (var : String) (item : Value) (s : State) :
    Edited (Option Value × State) :=
  let left := body (s.withField var item)
  let fields := left.value.record.fields
  let after :=
    { left.value with record := { left.value.record with fields := Entries.erase fields var } }
  ⟨(if left.error.isSome then none else Entries.get? fields var, after), left.error⟩

/-- Carries out a body with an item as the record. Gives the item as it is afterwards. -/
def insideItem (body : State → Edited State) (item : Value) (s : State) :
    Edited (Option Value × State) :=
  match item.asHash with
  | .error e => ⟨(none, s), some e⟩
  | .ok fields =>
    let left := body (s.withRecord fields)
    let after := { s with session := left.value.session }
    ⟨(if left.error.isSome then none else some (.hash left.value.record.fields), after),
      left.error⟩

/-- The state after a visit, with the item put back if it is to be and is there. -/
def settle (back : Option Path) (index : Nat) (visited : Option Value × State) : State :=
  match back, visited.1 with
  | some path, some v => visited.2.putBack path index v
  | _, _ => visited.2

/-- Carries out a body for items from an index on. `back` says where items are put back. -/
def forEach (visit : Value → State → Edited (Option Value × State)) (back : Option Path) :
    Nat → List Value → State → Edited State
  | _, [], s => ⟨s, none⟩
  | index, item :: rest, s =>
    let visited := visit item s
    match visited.error with
    | some e => ⟨visited.value.2, some e⟩
    | none => forEach visit back (index + 1) rest (settle back index visited.value)

theorem forEach_cons_of_none {visit : Value → State → Edited (Option Value × State)} {item : Value}
    {s : State} (h : (visit item s).error = none) (back : Option Path) (index : Nat)
    (rest : List Value) :
    forEach visit back index (item :: rest) s =
      forEach visit back (index + 1) rest (settle back index (visit item s).value) := by
  simp only [forEach, h]

theorem forEach_cons_of_some {visit : Value → State → Edited (Option Value × State)} {item : Value}
    {s : State} {e : FixError} (h : (visit item s).error = some e) (back : Option Path)
    (index : Nat) (rest : List Value) :
    forEach visit back index (item :: rest) s = ⟨(visit item s).value.2, some e⟩ := by
  simp only [forEach, h]

/-- The path along which items of an array are put back: that of the array if it is direct. -/
def backPath (s : State) (path : Path) : Option Path :=
  (s.record.fields.directArray? path).map fun _ => path

/-- Carries out a body for an item as the option `var` says. -/
def visit (options : Options) (body : State → Edited State) :
    Value → State → Edited (Option Value × State) :=
  match Entries.get? options "var" with
  | some var => withItem body var
  | none => insideItem body

/-- Carries out a body for every item of the array that the option `path` leads to. -/
def list (s : State) (options : Options) (body : State → Edited State) : Edited State :=
  match Entries.get? options "path" with
  | none => ⟨s, some (.invalidArgument listBlock "missing option 'path'")⟩
  | some text =>
    let path := Path.ofString text
    match s.record.find path with
    | some (.array items) => forEach (visit options body) (s.backPath path) 0 items s
    | _ => ⟨s, none⟩

/-- Carries out a block. -/
def bind (s : State) (i : Invocation) (body : State → Edited State) : Edited State :=
  if i.name = listBlock then s.list (i.resolvedOptions s.session) body
  else ⟨s, some (.unknownOperation i.name)⟩

/-- The block is `list`, and these are the items of the array at its path. -/
structure Lists (s : State) (i : Invocation) (path : Path) (items : List Value) : Prop where
  name : i.name = listBlock
  option : (Entries.get? (i.resolvedOptions s.session) "path").map Path.ofString = some path
  found : s.record.find path = some (.array items)

theorem bind_of_lists {s : State} {i : Invocation} {path : Path} {items : List Value}
    (h : s.Lists i path items) (body : State → Edited State) :
    s.bind i body =
      forEach (visit (i.resolvedOptions s.session) body) (s.backPath path) 0 items s := by
  obtain ⟨text, htext, rfl⟩ := Option.map_eq_some_iff.mp h.option
  simp only [bind, list, h.name, htext, h.found, if_true]

/-- Goes on according to a condition. -/
def decide (s : State) (e : Extensions) (i : Invocation) (yes no : State → Edited State) :
    Edited State :=
  match s.test e i with
  | .error error => ⟨s, some error⟩
  | .ok true => yes s
  | .ok false => no s

end State

namespace Expression

mutual

/-- Carries out an expression. -/
def run (e : Extensions) : Expression → State → Edited State
  | .call i, s => s.call e i
  | .bind i body, s => s.bind i (runAll e body)
  | .ifElse i body elsif otherwise, s =>
    s.decide e i (runAll e body) (runBranch e elsif (runElse e otherwise))
  | .ifNot i body, s => s.decide e i (fun s => ⟨s, none⟩) (runAll e body)

/-- Carries out expressions one after the other until one fails. -/
def runAll (e : Extensions) : List Expression → State → Edited State
  | [], s => ⟨s, none⟩
  | x :: rest, s => (run e x s).andThen (runAll e rest)

/-- Carries out a block with a condition of its own, or what comes after it. -/
def runBranch (e : Extensions) :
    Option (Invocation × List Expression) → (State → Edited State) → State → Edited State
  | none, no, s => no s
  | some (i, body), no, s => s.decide e i (runAll e body) no

/-- Carries out a last block, if there is one. -/
def runElse (e : Extensions) : Option (List Expression) → State → Edited State
  | none, s => ⟨s, none⟩
  | some body, s => runAll e body s

end

end Expression

/-- Carries out a fix. -/
def Fix.run (fix : Fix) (e : Extensions) (s : State) : Edited State := Expression.runAll e fix s

end RecordFix
