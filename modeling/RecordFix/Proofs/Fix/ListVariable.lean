import RecordFix.Proofs.Fix.Composition
import RecordFix.Proofs.Path.Direct

/-!
# The block `list` with a variable

With the option `var` the block carries out its body on the record itself, in which one item after
the other is a field of this name for the time being. The field is gone in the end, whatever the
body does. Over the array at a direct path that the body leaves alone, each item becomes what the
field holds when the body is done with it (`Expression.run_list_variable`). If the body is empty the
record stays as it is but for a field that was called like the variable before
(`Expression.run_list_empty`).
-/

namespace RecordFix

namespace State

/-! ## The turns of a block -/

/-- The items that are gone through, each with the state in which its turn comes, up to the first
item on which the visit fails. -/
def turns (visit : Value → State → Edited (Option Value × State)) (back : Option Path) :
    Nat → List Value → State → List (Value × State)
  | _, [], _ => []
  | index, item :: rest, s =>
    (item, s) ::
      match (visit item s).error with
      | some _ => []
      | none => turns visit back (index + 1) rest (settle back index (visit item s).value)

theorem turns_cons_of_none {visit : Value → State → Edited (Option Value × State)} {item : Value}
    {s : State} (h : (visit item s).error = none) (back : Option Path) (index : Nat)
    (rest : List Value) :
    turns visit back index (item :: rest) s =
      (item, s) :: turns visit back (index + 1) rest (settle back index (visit item s).value) := by
  simp only [turns, h]

/-! ## Items that are put back -/

variable {body : State → Edited State} {var : String} {path : Path}

/-- What becomes of an item after its turn: what its field holds, or the item as it was if the field
is gone. -/
def itemAfter (body : State → Edited State) (var : String) (turn : Value × State) : Value :=
  (Entries.get? (body (turn.2.withField var turn.1)).value.record.fields var).getD turn.1

/-- The body leaves the array at a path alone in this turn. -/
def KeepsArray (body : State → Edited State) (var : String) (path : Path) (turn : Value × State) :
    Prop :=
  (body (turn.2.withField var turn.1)).value.record.fields.directArray? path =
    turn.2.record.fields.directArray? path

instance (body : State → Edited State) (var : String) (path : Path) (turn : Value × State) :
    Decidable (KeepsArray body var path turn) := by
  unfold KeepsArray
  infer_instance

theorem directArray?_settle_withItem (hhead : path.head ≠ var) {done rest : List Value}
    {item : Value} {s : State}
    (hs : s.record.fields.directArray? path = some (done ++ item :: rest))
    (hkept : KeepsArray body var path (item, s))
    (hsucceeds : (body (s.withField var item)).error = none) :
    (settle (some path) done.length (withItem body var item s).value).record.fields.directArray?
        path = some ((done ++ [itemAfter body var (item, s)]) ++ rest) := by
  let left := body (s.withField var item)
  have hafter : (withItem body var item s).value.2.record.fields.directArray? path =
      some (done ++ item :: rest) := by
    refine Eq.trans ?_ (hkept.trans hs)
    exact Hash.directArray?_congr (Entries.get?_erase_of_ne hhead left.value.record.fields)
  have hvalue : (withItem body var item s).value.1 =
      Entries.get? left.value.record.fields var := by
    simp only [withItem, hsucceeds, Option.isSome_none, Bool.false_eq_true, if_false, left]
  cases hget : Entries.get? left.value.record.fields var with
  | none =>
    have hitem : itemAfter body var (item, s) = item := by rw [itemAfter, hget]; rfl
    rw [hget] at hvalue
    simpa only [settle, hvalue, hitem, List.append_assoc, List.singleton_append] using hafter
  | some v =>
    have hitem : itemAfter body var (item, s) = v := by rw [itemAfter, hget]; rfl
    rw [hget] at hvalue
    simp only [settle, hvalue, hitem]
    refine (Hash.directArray?_modifyArray hafter _).trans ?_
    rw [List.set_append_right _ _ (Nat.le_refl _), Nat.sub_self, List.set_cons_zero,
      List.append_assoc, List.singleton_append]

/-- While the items are gone through, those of `done` are in the array already. -/
theorem directArray?_forEach_withItem (hhead : path.head ≠ var) (rest done : List Value)
    (s : State) (hs : s.record.fields.directArray? path = some (done ++ rest))
    (hkept : ∀ turn ∈ turns (withItem body var) (some path) done.length rest s,
      KeepsArray body var path turn)
    (hsucceeds : (forEach (withItem body var) (some path) done.length rest s).error = none) :
    (turns (withItem body var) (some path) done.length rest s).map (·.1) = rest ∧
      (forEach (withItem body var) (some path) done.length rest
          s).value.record.fields.directArray? path =
        some (done ++ (turns (withItem body var) (some path) done.length rest s).map
          (itemAfter body var)) := by
  induction rest generalizing done s with
  | nil => exact ⟨rfl, hs⟩
  | cons item rest ih =>
    cases hvisit : (withItem body var item s).error with
    | some err =>
      rw [forEach_cons_of_some hvisit] at hsucceeds
      cases hsucceeds
    | none =>
      let next := settle (some path) done.length (withItem body var item s).value
      have hturns := turns_cons_of_none hvisit (some path) done.length rest
      rw [hturns] at hkept
      obtain ⟨hfirst, hlater⟩ := List.forall_mem_cons.mp hkept
      have hnext := directArray?_settle_withItem hhead hs hfirst hvisit
      rw [forEach_cons_of_none hvisit] at hsucceeds
      have hrest := ih (done ++ [itemAfter body var (item, s)]) next hnext
      rw [List.length_append, List.length_singleton] at hrest
      obtain ⟨hitems, harray⟩ := hrest hlater hsucceeds
      rw [hturns, forEach_cons_of_none hvisit, List.map_cons, List.map_cons]
      exact ⟨congrArg (item :: ·) hitems, harray.trans (by rw [List.append_assoc]; rfl)⟩

/-! ## The field that is there for the time being -/

theorem get?_settle_eq_none {back : Option Path} {index : Nat} {visited : Option Value × State}
    {name : String} (h : Entries.get? visited.2.record.fields name = none) :
    Entries.get? (settle back index visited).record.fields name = none := by
  unfold settle
  split
  · rw [Entries.get?_eq_none_iff] at h ⊢
    unfold putBack
    rwa [Hash.names_modifyArray]
  · exact h

theorem get?_forEach_withItem (back : Option Path) (index : Nat) (items : List Value) {s : State}
    (hs : Entries.get? s.record.fields var = none) :
    Entries.get? (forEach (withItem body var) back index items s).value.record.fields var =
      none := by
  induction items generalizing index s with
  | nil => exact hs
  | cons item rest ih =>
    have hvisited :
        Entries.get? (withItem body var item s).value.2.record.fields var = none :=
      Entries.get?_erase_self _ _
    cases hvisit : (withItem body var item s).error with
    | some err =>
      rw [forEach_cons_of_some hvisit]
      exact hvisited
    | none =>
      rw [forEach_cons_of_none hvisit]
      exact ih (index + 1) (get?_settle_eq_none hvisited)

/-! ## A body that does nothing -/

theorem withItem_of_idle (hbody : ∀ t, body t = ⟨t, none⟩) (var : String) (item : Value)
    (s : State) :
    withItem body var item s =
      ⟨(some item, s.withFields (Entries.erase s.record.fields var)), none⟩ := by
  simp [withItem, hbody, withField, withFields, Entries.get?_put_self, Entries.erase_put]

/-- Whatever is put back, nothing but the fields of the record is changed. -/
theorem exists_forEach_of_idle (hbody : ∀ t, body t = ⟨t, none⟩) (back : Option Path)
    (index : Nat) (items : List Value) (s : State) :
    ∃ fields, forEach (withItem body var) back index items s = ⟨s.withFields fields, none⟩ := by
  induction items generalizing index s with
  | nil => exact ⟨s.record.fields, rfl⟩
  | cons item rest ih =>
    have hvisit := withItem_of_idle hbody var item s
    obtain ⟨settled, hsettled⟩ :=
      exists_settle_eq back index (withItem body var item s).value
    obtain ⟨fields, hfields⟩ := ih (index + 1) (settle back index (withItem body var item s).value)
    refine ⟨fields, (forEach_cons_of_none (congrArg Edited.error hvisit) _ _ _).trans ?_⟩
    rw [hfields, hsettled, hvisit]
    rfl

/-- An item that is in its place already is put back without a change. -/
theorem putBack_of_drop_eq {s : State} {index : Nat} {item : Value} {rest : List Value}
    (h : ∀ held, s.record.fields.directArray? path = some held → held.drop index = item :: rest) :
    s.putBack path index item = s := by
  have hfields : s.record.fields.modifyArray path (fun held => held.set index item) =
      s.record.fields := by
    refine Hash.modifyArray_of_fixed fun held hheld => ?_
    have hitem : held[index]? = some item := by
      rw [← List.head?_drop, h held hheld, List.head?_cons]
    obtain ⟨hlt, rfl⟩ := List.getElem?_eq_some_iff.mp hitem
    exact List.set_getElem_self hlt
  rw [putBack, hfields]

theorem forEach_cons_of_idle (hbody : ∀ t, body t = ⟨t, none⟩) {back : Option Path} {index : Nat}
    {item : Value} {rest : List Value} {s : State}
    (hback : ∀ path ∈ back, ∀ held,
      Hash.directArray? (Entries.erase s.record.fields var) path = some held →
        held.drop index = item :: rest) :
    forEach (withItem body var) back index (item :: rest) s =
      forEach (withItem body var) back (index + 1) rest
        (s.withFields (Entries.erase s.record.fields var)) := by
  have hvisit := withItem_of_idle hbody var item s
  have hsettle : settle back index (withItem body var item s).value =
      s.withFields (Entries.erase s.record.fields var) := by
    rw [hvisit]
    cases back with
    | none => rfl
    | some path => exact putBack_of_drop_eq (hback path rfl)
  rw [forEach_cons_of_none (congrArg Edited.error hvisit), hsettle]

/-- Where items are put back to the array that they come from, nothing is changed but that a field
goes which is called like the variable. -/
theorem forEach_of_idle (hbody : ∀ t, body t = ⟨t, none⟩) {back : Option Path} {index : Nat}
    {item : Value} {rest : List Value} {s : State}
    (hback : ∀ path ∈ back, ∀ held,
      Hash.directArray? (Entries.erase s.record.fields var) path = some held →
        held.drop index = item :: rest) :
    forEach (withItem body var) back index (item :: rest) s =
      ⟨s.withFields (Entries.erase s.record.fields var), none⟩ := by
  rw [forEach_cons_of_idle hbody hback]
  induction rest generalizing index item s with
  | nil => rfl
  | cons next rest ih =>
    have hnext : ∀ path ∈ back, ∀ held, Hash.directArray? (Entries.erase
        (s.withFields (Entries.erase s.record.fields var)).record.fields var) path = some held →
          held.drop (index + 1) = next :: rest := by
      intro path hpath held hheld
      rw [withFields, Entries.erase_erase] at hheld
      rw [← List.tail_drop, hback path hpath held hheld, List.tail_cons]
    rw [forEach_cons_of_idle hbody hnext, ih hnext]
    simp only [withFields, Entries.erase_erase]

end State

/-! ## Runs of the block -/

namespace Expression

open State

variable {e : Extensions} {i : Invocation} {body : List Expression} {s : State} {var : String}

theorem run_bind_of_lists {path : Path} {items : List Value} (h : s.Lists i path items)
    (hvar : Entries.get? (i.resolvedOptions s.session) "var" = some var) :
    run e (.bind i body) s =
      forEach (withItem (runAll e body) var) (s.backPath path) 0 items s := by
  simp only [run, State.bind_of_lists h, State.visit, hvar]

theorem run_bind_of_no_array {text : String} (hname : i.name = listBlock)
    (hpath : Entries.get? (i.resolvedOptions s.session) "path" = some text)
    (hnone : ∀ items, s.record.find (Path.ofString text) ≠ some (.array items)) :
    run e (.bind i body) s = ⟨s, none⟩ := by
  rw [run, State.bind, if_pos hname, State.list, hpath]
  dsimp only
  split
  · next items hfind => exact absurd hfind (hnone items)
  · rfl

/-- Over the array at a direct path that the body leaves alone the block `list` with a variable, if
it succeeds, takes every item in its turn and puts in its place what the field of the variable holds
when the body is done, or the item itself if that field is gone. However the block ends, the record
has no field for the variable afterwards. -/
theorem run_list_variable (e : Extensions) (i : Invocation) (body : List Expression) (s : State)
    {text var : String} {items : List Value} (hname : i.name = listBlock)
    (hpath : Entries.get? (i.resolvedOptions s.session) "path" = some text)
    (hvar : Entries.get? (i.resolvedOptions s.session) "var" = some var)
    (hliteral : (Path.ofString text).Literal)
    (hdistinct : (Value.hash s.record.fields).Distinct)
    (hitems : s.record.fields.directArray? (Path.ofString text) = some items)
    (hnew : Entries.get? s.record.fields var = none) (hhead : (Path.ofString text).head ≠ var) :
    let path := Path.ofString text
    let left := run e (.bind i body) s
    let turns := State.turns (withItem (runAll e body) var) (some path) 0 items s
    ((∀ turn ∈ turns, KeepsArray (runAll e body) var path turn) → left.error = none →
        turns.map (·.1) = items ∧
          left.value.record.fields.directArray? path =
            some (turns.map (itemAfter (runAll e body) var))) ∧
      Entries.get? left.value.record.fields var = none := by
  intro path left turns
  have hfind : s.record.find path = some (.array items) :=
    Record.find_of_directArray? hliteral hdistinct hitems
  have hback : s.backPath path = some path := by rw [backPath, hitems, Option.map_some]
  have hlists : s.Lists i path items := ⟨hname, by rw [hpath, Option.map_some], hfind⟩
  have hleft : left = forEach (withItem (runAll e body) var) (some path) 0 items s := by
    rw [← hback]
    exact run_bind_of_lists hlists hvar
  rw [hleft]
  refine ⟨fun hkept hsucceeds => ?_, get?_forEach_withItem _ _ _ hnew⟩
  exact directArray?_forEach_withItem hhead items [] s hitems hkept hsucceeds

/-- Authors of the first of some works; one of them is marked. -/
def partnersSample : Hash :=
  [("work", .array [.hash [("author", .array [.hash [("name", .string "max")],
      .hash [("name", .string "mo"), ("skip", .string "1")]]), ("year", .string "1")]]),
    ("title", .string "t")]

/-- The body gives up its field for the marked author, who stays as he is, and changes the other. -/
theorem run_list_variable_partnersSample :
    let block : Invocation := ⟨"list", [], [("path", "work.$first.author"), ("var", "a")]⟩
    let body := [Expression.ifElse ⟨"exists", ["a.skip"], []⟩ [ofCall "remove_field" ["a"]] none
      (some [ofCall "add_field" ["a.seen", "yes"]])]
    let left := run {} (.bind block body) ⟨{}, .ofFields partnersSample⟩
    left.value.record.fields.directArray? ["work", "$first", "author"] =
        some [.hash [("name", .string "max"), ("seen", .string "yes")],
          .hash [("name", .string "mo"), ("skip", .string "1")]] ∧
      Entries.get? left.value.record.fields "a" = none := by
  intro block body left
  let s : State := ⟨{}, .ofFields partnersSample⟩
  have hvar : Entries.get? (block.resolvedOptions s.session) "var" = some "a" := by decide +kernel
  have hitems : s.record.fields.directArray? (Path.ofString "work.$first.author") =
      some [.hash [("name", .string "max")],
        .hash [("name", .string "mo"), ("skip", .string "1")]] := by decide +kernel
  obtain ⟨harray, hgone⟩ := run_list_variable {} block body s rfl (by decide +kernel) hvar
    (by decide +kernel) (by decide) hitems (by decide) (by decide +kernel)
  exact ⟨(harray (by decide +kernel) (by decide +kernel)).2.trans (by decide +kernel), hgone⟩

/-- With an empty body the block `list` with a variable succeeds and changes at most the fields of
the record, and nothing if there is no item. If the array at its path, as far as the path is direct,
is the one that reading finds, the fields stay as they are but for one that is called like the
variable: it is gone once an item has had its turn. -/
theorem run_list_empty (e : Extensions) (i : Invocation) (s : State) {text var : String}
    (hname : i.name = listBlock)
    (hpath : Entries.get? (i.resolvedOptions s.session) "path" = some text)
    (hvar : Entries.get? (i.resolvedOptions s.session) "var" = some var) :
    let path := Path.ofString text
    let left := run e (.bind i []) s
    (∃ fields, left = ⟨s.withFields fields, none⟩) ∧
      ((∀ item rest, s.record.find path ≠ some (.array (item :: rest))) → left = ⟨s, none⟩) ∧
      ((∀ items, s.record.fields.directArray? path = some items →
          s.record.find path = some (.array items)) →
        (∀ item rest, s.record.find path = some (.array (item :: rest)) →
          left = ⟨s.withFields (Entries.erase s.record.fields var), none⟩) ∧
        (Entries.get? s.record.fields var = none → left = ⟨s, none⟩)) := by
  intro path left
  have hidle : ∀ t, runAll e [] t = ⟨t, none⟩ := fun t => by rw [runAll]
  have hlisted : ∀ items, s.record.find path = some (.array items) →
      left = forEach (withItem (runAll e []) var) (s.backPath path) 0 items s :=
    fun items hfind => run_bind_of_lists ⟨hname, by rw [hpath, Option.map_some], hfind⟩ hvar
  have hskipped : (∀ item rest, s.record.find path ≠ some (.array (item :: rest))) →
      left = ⟨s, none⟩ := by
    intro hnone
    by_cases hempty : s.record.find path = some (.array [])
    · exact hlisted [] hempty
    · refine run_bind_of_no_array hname hpath fun items hfind => ?_
      cases items with
      | nil => exact hempty hfind
      | cons item rest => exact hnone item rest hfind
  have hgone : (∀ items, s.record.fields.directArray? path = some items →
      s.record.find path = some (.array items)) →
        ∀ item rest, s.record.find path = some (.array (item :: rest)) →
          left = ⟨s.withFields (Entries.erase s.record.fields var), none⟩ := by
    intro hread item rest hfind
    rw [hlisted _ hfind]
    refine forEach_of_idle hidle fun back hback held hheld => ?_
    obtain ⟨_, -, rfl⟩ := Option.map_eq_some_iff.mp hback
    have hsame := (hread held (Hash.directArray?_of_erase hheld)).symm.trans hfind
    exact Value.array.inj (Option.some.inj hsame)
  by_cases hsome : ∃ item rest, s.record.find path = some (.array (item :: rest))
  · obtain ⟨item, rest, hfind⟩ := hsome
    refine ⟨?_, hskipped, fun hread => ⟨hgone hread, fun hnew => ?_⟩⟩
    · rw [hlisted _ hfind]
      exact exists_forEach_of_idle hidle _ _ _ _
    · rw [hgone hread item rest hfind, Entries.erase_of_get?_eq_none hnew]
      rfl
  · have hnone := hskipped fun item rest hfind => hsome ⟨item, rest, hfind⟩
    exact ⟨⟨s.record.fields, hnone⟩, hskipped, fun hread => ⟨hgone hread, fun _ => hnone⟩⟩

theorem run_list_empty_partnersSample :
    let block : Invocation := ⟨"list", [], [("path", "work.$first.author"), ("var", "a")]⟩
    let s : State := ⟨{}, .ofFields partnersSample⟩
    run {} (.bind block []) s = ⟨s, none⟩ := by
  intro block s
  have hpath : Entries.get? (block.resolvedOptions s.session) "path" =
      some "work.$first.author" := by decide +kernel
  have hvar : Entries.get? (block.resolvedOptions s.session) "var" = some "a" := by decide +kernel
  have hread : ∀ items,
      partnersSample.directArray? (Path.ofString "work.$first.author") = some items →
        s.record.find (Path.ofString "work.$first.author") = some (.array items) :=
    fun _ hitems => Record.find_of_directArray? (by decide +kernel) (by decide) hitems
  exact ((run_list_empty {} block s rfl hpath hvar).2.2 hread).2 (by decide)

/-- The field that is there for the time being takes the place of one that is called like it. -/
theorem field_displaced :
    ¬ ∀ (e : Extensions) (i : Invocation) (s : State) (text var : String), i.name = listBlock →
      Entries.get? (i.resolvedOptions s.session) "path" = some text →
        Entries.get? (i.resolvedOptions s.session) "var" = some var →
          (Value.hash s.record.fields).Distinct →
            let left := run e (.bind i []) s
            left.error = none ∧ left.value.record = s.record := by
  intro hall
  let block : Invocation := ⟨"list", [], [("path", "tags"), ("var", "v")]⟩
  let s : State := ⟨{}, .ofFields [("v", .string "x"), ("tags", .array [.string "1"])]⟩
  obtain ⟨-, hsame⟩ :=
    hall {} block s "tags" "v" rfl (by decide +kernel) (by decide +kernel) (by decide)
  exact absurd (congrArg Record.fields hsame) (by decide +kernel)

end Expression

end RecordFix
