import RecordFix.Fix.Interpreter
import RecordFix.Proofs.Path.Direct

/-!
# The block `list` without a variable

Without the option `var` the block carries out its body on every item as a record of its own. Over
an array at a direct path this is a map from left to right (`Expression.run_list`): `State.mapItems`
is that map, without paths and without the record around. The record around comes back with the
items of the map in the array and is otherwise as it was, also if the body fails.
-/

namespace RecordFix

namespace State

/-- Carries out a body on each of the items as a fresh record, from left to right. A hash becomes
what the body leaves of it. An item that is no hash or on which the body fails is the last one: it
and those after it stay as they are. -/
def mapItems (body : State → Edited State) : List Value → Session → Edited (List Value × Session)
  | [], s => ⟨([], s), none⟩
  | item :: rest, s =>
    match item.asHash with
    | .error e => ⟨(item :: rest, s), some e⟩
    | .ok fields =>
      let left := body ⟨s, .ofFields fields⟩
      match left.error with
      | some e => ⟨(item :: rest, left.value.session), some e⟩
      | none =>
        (mapItems body rest left.value.session).map fun r =>
          (.hash left.value.record.fields :: r.1, r.2)

variable (body : State → Edited State)

theorem length_mapItems (items : List Value) (s : Session) :
    (mapItems body items s).value.1.length = items.length := by
  induction items generalizing s with
  | nil => rfl
  | cons item rest ih =>
    unfold mapItems
    split
    · rfl
    · dsimp only
      split
      · rfl
      · exact congrArg (· + 1) (ih _)

/-- The state with other items in the array at a path and another session. -/
def withItems (s : State) (path : Path) (r : List Value × Session) : State :=
  ⟨r.2, { s.record with fields := s.record.fields.modifyArray path fun _ => r.1 }⟩

theorem withItems_of_directArray? {s : State} {path : Path} {items : List Value}
    (hp : s.record.fields.directArray? path = some items) (session : Session) :
    s.withItems path (items, session) = { s with session } := by
  rw [withItems, Hash.modifyArray_of_fixed fun held hheld => Option.some.inj (hp.symm.trans hheld)]

theorem withItems_putBack (s : State) (session : Session) (path : Path) (index : Nat) (v : Value)
    (r : List Value × Session) :
    (putBack { s with session } path index v).withItems path r = s.withItems path r := by
  simp only [withItems, putBack]
  rw [Hash.modifyArray_modifyArray]

theorem insideItem_of_asHash {item : Value} {fields : Hash} (h : item.asHash = .ok fields)
    (s : State) :
    insideItem body item s =
      let left := body ⟨s.session, .ofFields fields⟩
      ⟨(if left.error.isSome then none else some (.hash left.value.record.fields),
        { s with session := left.value.session }), left.error⟩ := by
  simp only [insideItem, h]
  rfl

/-- While the items are gone through, those of `done` are in the array already. -/
theorem forEach_insideItem {path : Path} (rest done : List Value) (s : State)
    (hp : s.record.fields.directArray? path = some (done ++ rest)) :
    forEach (insideItem body) (some path) done.length rest s =
      (mapItems body rest s.session).map fun r => s.withItems path (done ++ r.1, r.2) := by
  induction rest generalizing done s with
  | nil => simp only [forEach, mapItems, Edited.map, withItems_of_directArray? hp]
  | cons item rest ih =>
    cases hitem : item.asHash with
    | error e =>
      simp only [forEach, mapItems, insideItem, hitem, Edited.map, withItems_of_directArray? hp]
    | ok fields =>
      simp only [forEach, mapItems, insideItem_of_asHash body hitem, hitem]
      generalize body ⟨s.session, .ofFields fields⟩ = left
      cases hleft : left.error with
      | some e => simp only [Edited.map, withItems_of_directArray? hp]
      | none =>
        let next := putBack { s with session := left.value.session } path done.length
          (.hash left.value.record.fields)
        have hnext : next.record.fields.directArray? path =
            some ((done ++ [.hash left.value.record.fields]) ++ rest) := by
          refine (Hash.directArray?_modifyArray hp _).trans ?_
          rw [List.set_append_right _ _ (Nat.le_refl _)]
          simp
        have hrest := ih (done ++ [.hash left.value.record.fields]) next hnext
        rw [List.length_append, List.length_singleton] at hrest
        refine hrest.trans ?_
        rw [Edited.map_map]
        simp only [next, withItems_putBack, List.append_assoc, List.singleton_append]
        rfl

theorem record_insideItem (item : Value) (s : State) :
    (insideItem body item s).value.2.record = s.record := by
  unfold insideItem
  split <;> rfl

/-- Items that are not put back leave the record around as it is. -/
theorem record_forEach_insideItem (index : Nat) (items : List Value) (s : State) :
    (forEach (insideItem body) none index items s).value.record = s.record := by
  induction items generalizing index s with
  | nil => rfl
  | cons item rest ih =>
    unfold forEach
    dsimp only
    split
    · exact record_insideItem body item s
    · exact (ih _ _).trans (record_insideItem body item s)

/-- The block over the array at a direct path, as a map. -/
theorem list_eq_mapItems {s : State} {options : Options} {text : String} {items : List Value}
    (hpath : Entries.get? options "path" = some text)
    (hvar : Entries.get? options "var" = none)
    (hliteral : (Path.ofString text).Literal)
    (hdistinct : (Value.hash s.record.fields).Distinct)
    (hitems : s.record.fields.directArray? (Path.ofString text) = some items) :
    s.list options body =
      (mapItems body items s.session).map (s.withItems (Path.ofString text)) := by
  have hfind : s.record.find (Path.ofString text) = some (.array items) :=
    Record.find_of_directArray? hliteral hdistinct hitems
  simp only [list, visit, backPath, hpath, hvar, hfind, hitems, Option.map_some]
  exact forEach_insideItem body items [] s hitems

end State

/-- Without a variable the block `list` over the array at a direct path is a map from left to right
over its items: error and session are those of the map, its items are in the array, and nothing else
in the record is changed. If the path is not direct the record stays as it is. -/
theorem Expression.run_list (e : Extensions) (i : Invocation) (body : List Expression) (s : State)
    {text : String} (hname : i.name = listBlock)
    (hpath : Entries.get? (i.resolvedOptions s.session) "path" = some text)
    (hvar : Entries.get? (i.resolvedOptions s.session) "var" = none)
    (hliteral : (Path.ofString text).Literal)
    (hdistinct : (Value.hash s.record.fields).Distinct) :
    let path := Path.ofString text
    let left := run e (.bind i body) s
    (∀ items, s.record.fields.directArray? path = some items →
      let mapped := State.mapItems (runAll e body) items s.session
      left.error = mapped.error ∧ left.value.session = mapped.value.2 ∧
        left.value.record.fields.directArray? path = some mapped.value.1 ∧
        mapped.value.1.length = items.length ∧
        Value.SameExceptAt path (.hash s.record.fields) (.hash left.value.record.fields) ∧
        left.value.record.virtualFields = s.record.virtualFields ∧
        left.value.record.rejected = s.record.rejected) ∧
      (s.record.fields.directArray? path = none → left.value.record = s.record) := by
  intro path left
  have hleft : left = s.list (i.resolvedOptions s.session) (runAll e body) := by
    simp only [left, run, State.bind, hname, if_true]
  constructor
  · intro items hitems mapped
    have hmap : left = mapped.map (s.withItems path) :=
      hleft.trans (State.list_eq_mapItems _ hpath hvar hliteral hdistinct hitems)
    rw [hmap]
    exact ⟨rfl, rfl, Hash.directArray?_modifyArray hitems _, State.length_mapItems _ _ _,
      Hash.sameExceptAt_modifyArray _ _ _, rfl, rfl⟩
  · intro hnone
    have hback : s.record.fields.directArray? (Path.ofString text) = none := hnone
    rw [hleft]
    simp only [State.list, State.visit, State.backPath, hpath, hvar, hback, Option.map_none]
    split
    · exact State.record_forEach_insideItem _ _ _ _
    · rfl

/-- Authors of the first of some works; the last one is no hash. -/
def Hash.worksSample : Hash :=
  [("work", .array [.hash [("author", .array [.hash [("name", .string "max")],
      .hash [("name", .string "mo")], .string "anonymous"]), ("year", .string "1")]]),
    ("title", .string "t")]

/-- Each author is given what the variable holds, which the body sets when it is done with one. -/
theorem Expression.run_list_worksSample :
    let block : Invocation := ⟨"list", [], [("path", "work.$first.author")]⟩
    let body := [ofCall "add_field" ["seen", "$[v]"], ofCall "put_var" ["v", "yes"]]
    let left := run {} (.bind block body) ⟨{}, .ofFields Hash.worksSample⟩
    left.error = some (.typeMismatch .hash .string) ∧
      left.value.record.fields.directArray? ["work", "$first", "author"] =
        some [.hash [("name", .string "max"), ("seen", .string "$[v]")],
          .hash [("name", .string "mo"), ("seen", .string "yes")], .string "anonymous"] := by
  intro block body left
  have hdistinct : (Value.hash Hash.worksSample).Distinct := by
    simp [Hash.worksSample, Value.Distinct, Value.DistinctFields, Value.DistinctItems,
      Entries.Unique, Entries.names]
  have hitems : Hash.worksSample.directArray? (Path.ofString "work.$first.author") =
      some [.hash [("name", .string "max")], .hash [("name", .string "mo")],
        .string "anonymous"] := by decide +kernel
  obtain ⟨herror, -, hdirect, -⟩ := (run_list {} block body ⟨{}, .ofFields Hash.worksSample⟩
    rfl (by decide +kernel) (by decide +kernel) (by decide +kernel) hdistinct).1 _ hitems
  exact ⟨herror.trans (by decide +kernel), hdirect.trans (by decide +kernel)⟩

end RecordFix
