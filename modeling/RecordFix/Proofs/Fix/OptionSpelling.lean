import RecordFix.Fix.Interpreter
import RecordFix.Proofs.Fix.Documents
import RecordFix.Proofs.Table.Reading

/-!
# The two spellings of options

The options of a node are written as an object or as an array of pairs. Whatever else is written in
the node is read without regard to them (`Expression.ofJson?_fill`). A repeated option is gone
already when an object has been read, and is still there when pairs have been read, but the options
by name are the same (`Expression.options_spellings`).
-/

namespace RecordFix

open Json

theorem Entries.unique_ofList {α : Type} (es : List (String × α)) : (ofList es).Unique := by
  have hput (acc : Entries α) (h : acc.Unique) :
      (es.foldl (fun acc e => put acc e.1 e.2) acc).Unique := by
    induction es generalizing acc with
    | nil => exact h
    | cons e rest ih => exact ih _ (h.put e.1 e.2)
  exact hput [] List.nodup_nil

/-! ## Invocations -/

namespace Invocation

/-- The invocation with other options. -/
def withOptions (options : List (String × String)) (i : Invocation) : Invocation :=
  { i with options }

theorem optionsOfJson?_ofPairs (pairs : List (String × String)) :
    optionsOfJson? (.ofPairs pairs) = some pairs :=
  mapM_stringPair?_ofPairs pairs

theorem optionsOfJson?_ofTable (pairs : List (String × String)) :
    optionsOfJson? (.ofTable pairs) = some (Entries.ofList pairs) := by
  have hmembers : (pairs.map fun pair => (pair.1, Json.string pair.2)).mapM stringMember? =
      some pairs := mapM_map_eq_some _ stringMember? (fun _ => rfl) pairs
  exact congrArg (Option.map Entries.ofList) hmembers

theorem ofFields?_some (name params : Option Json) (o : Json) :
    ofFields? name params (some o) = (optionsOfJson? o).bind fun options =>
      (ofFields? name params (some (.array []))).map (withOptions options) := by
  have hempty : Json.optional [] optionsOfJson? (some (.array [])) = some [] := rfl
  have hoptions : Json.optional [] optionsOfJson? (some o) = optionsOfJson? o := rfl
  rw [ofFields?, ofFields?, hempty, hoptions]
  cases required string? name <;> cases optional [] strings? params <;> cases optionsOfJson? o <;>
    rfl

/-- What is made of an invocation has its options, if it has those of every invocation. -/
theorem bind_ofFields? {α : Type} {put : List (String × String) → α → α}
    {make : Invocation → Option α}
    (hmake : ∀ options i, make (withOptions options i) = (make i).map (put options))
    (name params : Option Json) (o : Json) :
    (ofFields? name params (some o)).bind make = (optionsOfJson? o).bind fun options =>
      ((ofFields? name params (some (.array []))).bind make).map (put options) := by
  rw [ofFields?_some]
  cases optionsOfJson? o with
  | none => rfl
  | some options =>
    cases ofFields? name params (some (.array [])) with
    | none => rfl
    | some i => exact hmake options i

/-! ## What is written around the options -/

/-- What stands around the options of a node: the other members of an object, or the other items of
an array. -/
inductive Frame where
  | object (before after : List (String × Json))
  | array (before after : List Json)

namespace Frame

/-- The node with its options. -/
def fill (frame : Frame) (o : Json) : Json :=
  match frame with
  | .object before after => .object (before ++ ("options", o) :: after)
  | .array before after => .array (before ++ o :: after)

/-- In an array, so many items stand before the options. -/
def HasBefore (n : Nat) : Frame → Prop
  | .object _ _ => True
  | .array before _ => before.length = n

section Members

variable (before after : List (String × Json))

theorem lookup_members {field : String} (h : field ≠ "options") (o : Json) :
    (before ++ ("options", o) :: after).lookup field =
      (before.lookup field).or (after.lookup field) := by
  rw [List.lookup_append, List.lookup_cons, beq_eq_false_iff_ne.mpr h]

theorem isRepeated_members (field : String) (o : Json) :
    isRepeated (before ++ ("options", o) :: after) field =
      isRepeated (before ++ ("options", .null) :: after) field := by
  rw [isRepeated, isRepeated, List.filter_append, List.filter_append, List.length_append,
    List.length_append, List.filter_cons, List.filter_cons]
  split <;> rfl

theorem lookup_options {o : Json}
    (h : isRepeated (before ++ ("options", o) :: after) "options" = false) :
    (before ++ ("options", o) :: after).lookup "options" = some o := by
  have hbefore : before.lookup "options" = none := by
    refine List.lookup_eq_none_iff.mpr fun member hmember => ?_
    rw [isRepeated, List.filter_append, List.filter_cons_of_pos rfl, List.length_append,
      List.length_cons, decide_eq_false_iff_not] at h
    have hnone : (before.filter fun member => member.1 == "options") = [] :=
      List.eq_nil_of_length_eq_zero (by omega)
    have hother := List.filter_eq_nil_iff.mp hnone member hmember
    exact bne_iff_ne.mpr fun heq => hother (beq_iff_eq.mpr heq.symm)
  rw [List.lookup_append, hbefore]
  rfl

/-- The members of an object for other fields are there or not whatever its options are. -/
theorem fields?_members {more : List String} (hmore : "options" ∉ more) :
    ∃ found : Option (Option Json × Option Json × List (Option Json)), ∀ o,
      (Json.object (before ++ ("options", o) :: after)).fields?
          ("name" :: "params" :: "options" :: more) =
        found.map fun f => f.1 :: f.2.1 :: some o :: f.2.2 := by
  let names := "name" :: "params" :: "options" :: more
  let members (o : Json) := before ++ ("options", o) :: after
  have hrepeated (o : Json) : names.any (isRepeated (members o)) =
      names.any (isRepeated (members .null)) :=
    congrArg names.any (funext fun field => isRepeated_members before after field o)
  by_cases hany : names.any (isRepeated (members .null)) = true
  · exact ⟨none, fun o => if_pos ((hrepeated o).trans hany)⟩
  · let found (field : String) := (before.lookup field).or (after.lookup field)
    refine ⟨some (found "name", found "params", more.map found), fun o => ?_⟩
    have hothers : more.map (fun field => (members o).lookup field) = more.map found :=
      List.map_congr_left fun field hfield =>
        lookup_members before after (fun heq => hmore (heq ▸ hfield)) o
    have honce : isRepeated (members o) "options" = false := by
      rw [isRepeated_members]
      simp only [names, List.any_cons, Bool.or_eq_true, not_or, Bool.not_eq_true] at hany
      exact hany.2.2.1
    have hread : (Json.object (members o)).fields? names =
        some (names.map fun field => (members o).lookup field) :=
      if_neg fun hsome => hany ((hrepeated o).symm.trans hsome)
    refine hread.trans ?_
    simp only [names, List.map_cons, hothers]
    rw [lookup_options before after honce, lookup_members before after (by decide),
      lookup_members before after (by decide)]
    rfl

end Members

variable {frame : Frame}

/-- The fields of a node other than its options are there or not whatever the options are. -/
theorem fields?_fill (h : frame.HasBefore 2) {more : List String} (hmore : "options" ∉ more) :
    ∃ found : Option (Option Json × Option Json × List (Option Json)), ∀ o,
      (frame.fill o).fields? ("name" :: "params" :: "options" :: more) =
        found.map fun f => f.1 :: f.2.1 :: some o :: f.2.2 := by
  cases frame with
  | object before after => exact fields?_members before after hmore
  | array before after =>
    obtain ⟨name, params, rfl⟩ := List.length_eq_two.mp h
    by_cases hlength : after.length ≤ more.length
    · refine ⟨some (some name, some params, after.map some ++
        List.replicate (more.length - after.length) none), fun o => ?_⟩
      have hread : (Json.array (name :: params :: o :: after)).fields?
          ("name" :: "params" :: "options" :: more) = some _ :=
        if_pos (by simpa using hlength)
      refine hread.trans ?_
      simp
    · exact ⟨none, fun o => if_neg (by simpa using hlength)⟩

/-- The kind that a tag tells, with what stands around the options once the tag is gone. -/
def tagged (nested : Bool) (tag : Json) (others : Frame) : Option (ExpressionKind × Frame) :=
  (ExpressionKind.ofJson? nested tag).map (·, others)

theorem hasBefore_of_mem_tagged {nested : Bool} {tag : Json} {others : Frame} {n : Nat}
    (h : others.HasBefore n) : ∀ f ∈ tagged nested tag others, f.2.HasBefore n := by
  intro f hf
  obtain ⟨kind, -, rfl⟩ := Option.map_eq_some_iff.mp hf
  exact h

theorem map_tagged (nested : Bool) (tag : Json) (others : Frame) (o : Json) :
    (tagged nested tag others).map (fun f => (f.1, f.2.fill o)) =
      (ExpressionKind.ofJson? nested tag).map (·, others.fill o) := by
  rw [tagged, Option.map_map]
  rfl

/-- The tag of a node is told whatever its options are, and is not in the way of them. -/
theorem untag?_fill (h : frame.HasBefore 3) (nested : Bool) :
    ∃ found : Option (ExpressionKind × Frame), (∀ f ∈ found, f.2.HasBefore 2) ∧
      ∀ o, Expression.untag? nested (frame.fill o) = found.map fun f => (f.1, f.2.fill o) := by
  cases frame with
  | object before after =>
    let others := Frame.object (before.filter fun member => member.1 != "type")
      (after.filter fun member => member.1 != "type")
    have htags (o : Json) : (before ++ ("options", o) :: after).filter
        (fun member => member.1 == "type") = before.filter (fun member => member.1 == "type") ++
          after.filter fun member => member.1 == "type" := by
      rw [List.filter_append, List.filter_cons_of_neg (by simp)]
    have hothers (o : Json) : Json.object ((before ++ ("options", o) :: after).filter
        fun member => member.1 != "type") = others.fill o := by
      rw [List.filter_append, List.filter_cons_of_pos (by simp)]
      rfl
    generalize before.filter (fun member => member.1 == "type") ++
      after.filter (fun member => member.1 == "type") = tags at htags
    obtain _ | ⟨⟨_, tag⟩, _ | ⟨_, _⟩⟩ := tags
    · exact ⟨none, by simp, fun o => by simp [fill, Expression.untag?, htags]⟩
    · refine ⟨tagged nested tag others, hasBefore_of_mem_tagged trivial, fun o => ?_⟩
      rw [map_tagged, fill, Expression.untag?, htags, hothers]
      exact Option.map_eq_bind.symm
    · exact ⟨none, by simp, fun o => by simp [fill, Expression.untag?, htags]⟩
  | array before after =>
    obtain ⟨tag, name, params, rfl⟩ := List.length_eq_three.mp h
    refine ⟨tagged nested tag (.array [name, params] after), hasBefore_of_mem_tagged rfl,
      fun o => ?_⟩
    rw [map_tagged]
    exact Option.map_eq_bind.symm

end Frame

end Invocation

/-! ## Expressions -/

namespace Expression

open Invocation (Frame)

/-- The expression with other options of what it invokes first. -/
def withOptions (options : List (String × String)) : Expression → Expression
  | .call i => .call (i.withOptions options)
  | .bind i body => .bind (i.withOptions options) body
  | .ifElse i body elsif otherwise => .ifElse (i.withOptions options) body elsif otherwise
  | .ifNot i body => .ifNot (i.withOptions options) body

theorem invocation_withOptions (options : List (String × String)) (e : Expression) :
    (e.withOptions options).invocation = e.invocation.withOptions options := by
  cases e <;> rfl

/-- An expression does the same with other options that are the same by name. -/
theorem run_withOptions (ext : Extensions) {one other : List (String × String)}
    (h : Entries.ofList one = Entries.ofList other) (e : Expression) (s : State) :
    run ext (e.withOptions one) s = run ext (e.withOptions other) s := by
  have htable (i : Invocation) : (i.withOptions one).optionTable =
      (i.withOptions other).optionTable := h
  have hcall (i : Invocation) :
      s.call ext (i.withOptions one) = s.call ext (i.withOptions other) := by
    simp only [State.call, Invocation.resolvedOptions, htable]
    rfl
  have htest (i : Invocation) :
      s.test ext (i.withOptions one) = s.test ext (i.withOptions other) := by
    simp only [State.test, Invocation.resolvedOptions, htable]
    rfl
  cases e with
  | call i => simp only [withOptions, run, hcall]
  | bind i body =>
    simp only [withOptions, run, State.bind, Invocation.resolvedOptions, htable]
    rfl
  | ifElse i body elsif otherwise => simp only [withOptions, run, State.decide, htest]
  | ifNot i body => simp only [withOptions, run, State.decide, htest]

variable {body? : Json → Option (List Expression)}

/-- What is made of an invocation and the fields behind its options. -/
def completed (body? : Json → Option (List Expression)) (kind : ExpressionKind)
    (rest : List (Option Json)) (i : Invocation) : Option Expression :=
  match kind, rest with
  | .call, [] => some (.call i)
  | .bind, [elements] => do
    let body ← Json.optional [] body? elements
    pure (.bind i body)
  | .ifNot, [elements] => do
    let body ← Json.optional [] body? elements
    pure (.ifNot i body)
  | .ifElse, [elements, elsif, otherwise] => do
    let body ← Json.optional [] body? elements
    let elsif ← Json.optional none (Json.nullable (branchOfJson? body?)) elsif
    let otherwise ← Json.optional none (Json.nullable body?) otherwise
    pure (.ifElse i body elsif otherwise)
  | _, _ => none

theorem completed_withOptions (kind : ExpressionKind) (rest : List (Option Json))
    (options : List (String × String)) (i : Invocation) :
    completed body? kind rest (i.withOptions options) =
      (completed body? kind rest i).map (withOptions options) := by
  unfold completed
  split
  · rfl
  · cases Json.optional [] body? _ <;> rfl
  · cases Json.optional [] body? _ <;> rfl
  · rename_i elements elsif otherwise
    cases Json.optional [] body? elements <;>
      cases Json.optional none (Json.nullable (branchOfJson? body?)) elsif <;>
      cases Json.optional none (Json.nullable body?) otherwise <;> rfl
  · rfl

/-- An expression is what its invocation is completed to. -/
theorem ofFields?_of_fields? {kind : ExpressionKind} {j : Json} {name params options : Option Json}
    {rest : List (Option Json)}
    (h : j.fields? kind.fields = some (name :: params :: options :: rest)) :
    ofFields? body? kind j =
      (Invocation.ofFields? name params options).bind (completed body? kind rest) := by
  rw [ofFields?, h]
  rcases rest with _ | ⟨elements, _ | ⟨elsif, _ | ⟨otherwise, _ | _⟩⟩⟩ <;> cases kind <;>
    first
    | rfl
    | cases Invocation.ofFields? name params options <;> rfl

theorem exists_fields_eq (kind : ExpressionKind) :
    ∃ more, "options" ∉ more ∧ kind.fields = "name" :: "params" :: "options" :: more := by
  refine ⟨kind.fields.drop 3, ?_⟩
  cases kind <;> decide

variable {frame : Frame}

/-- The options of an expression are read apart from its other fields. -/
theorem ofFields?_fill (h : frame.HasBefore 2) (kind : ExpressionKind) (o : Json) :
    ofFields? body? kind (frame.fill o) = (Invocation.optionsOfJson? o).bind fun options =>
      (ofFields? body? kind (frame.fill (.array []))).map (withOptions options) := by
  obtain ⟨more, hmore, hfields⟩ := exists_fields_eq kind
  obtain ⟨found, hfound⟩ := Frame.fields?_fill h hmore
  rw [← hfields] at hfound
  cases found with
  | none =>
    have hnone (o : Json) : ofFields? body? kind (frame.fill o) = none := by
      rw [ofFields?, hfound]
      cases kind <;> rfl
    rw [hnone, hnone]
    cases Invocation.optionsOfJson? o <;> rfl
  | some others =>
    obtain ⟨name, params, rest⟩ := others
    rw [ofFields?_of_fields? (hfound o), ofFields?_of_fields? (hfound (.array []))]
    exact Invocation.bind_ofFields? (completed_withOptions kind rest) name params o

/-- The options of an expression are read apart from its tag and its other fields. -/
theorem ofJson?_fill (h : frame.HasBefore 3) (fuel : Nat) (nested : Bool) (o : Json) :
    ofJson? fuel nested (frame.fill o) = (Invocation.optionsOfJson? o).bind fun options =>
      (ofJson? fuel nested (frame.fill (.array []))).map (withOptions options) := by
  obtain ⟨found, hbefore, hfound⟩ := Frame.untag?_fill h nested
  rw [ofJson?, ofJson?, hfound, hfound]
  cases found with
  | none => cases Invocation.optionsOfJson? o <;> rfl
  | some fields => exact ofFields?_fill (hbefore fields rfl) fields.1 o

/-- The options of a second condition are read apart from its other fields. -/
theorem branchOfJson?_fill (h : frame.HasBefore 2) (o : Json) :
    branchOfJson? body? (frame.fill o) = (Invocation.optionsOfJson? o).bind fun options =>
      (branchOfJson? body? (frame.fill (.array []))).map fun branch =>
        (branch.1.withOptions options, branch.2) := by
  have hmore : "options" ∉ ["elements"] := by decide
  obtain ⟨found, hfound⟩ := Frame.fields?_fill h hmore
  have hfields : ExpressionKind.fields .ifNot = ["name", "params", "options", "elements"] := rfl
  rw [branchOfJson?, branchOfJson?, hfields, hfound, hfound]
  obtain _ | ⟨name, params, _ | ⟨elements, _ | ⟨_, _⟩⟩⟩ := found
  · cases Invocation.optionsOfJson? o <;> rfl
  · cases Invocation.optionsOfJson? o <;> rfl
  · refine Invocation.bind_ofFields? (fun options i => ?_) name params o
    show (Json.optional [] body? elements).bind _ = _
    cases Json.optional [] body? elements <;> rfl
  · cases Invocation.optionsOfJson? o <;> rfl

/-- The two spellings of options mean the same. The options by name have the keys in the order of
their first occurrence, each with its last text. An expression or a second condition that is read
with one spelling is read with the other as well, the rest of it is the same, and the options by
name are the same, so that it does the same. -/
theorem options_spellings (pairs : List (String × String)) :
    let table := Entries.ofList pairs
    (table.names = (pairs.map (·.1)).eraseDups ∧
      ∀ key, table.get? key = Entries.get? pairs.reverse key) ∧
    (∀ (frame : Frame) (fuel : Nat) (nested : Bool), frame.HasBefore 3 →
      let read := ofJson? fuel nested (frame.fill (.array []))
      ofJson? fuel nested (frame.fill (.ofPairs pairs)) = read.map (withOptions pairs) ∧
      ofJson? fuel nested (frame.fill (.ofTable pairs)) = read.map (withOptions table)) ∧
    (∀ (frame : Frame) (body? : Json → Option (List Expression)), frame.HasBefore 2 →
      let read := branchOfJson? body? (frame.fill (.array []))
      branchOfJson? body? (frame.fill (.ofPairs pairs)) =
        read.map (fun branch => (branch.1.withOptions pairs, branch.2)) ∧
      branchOfJson? body? (frame.fill (.ofTable pairs)) =
        read.map (fun branch => (branch.1.withOptions table, branch.2))) ∧
    (∀ i : Invocation, (i.withOptions pairs).optionTable = table ∧
      (i.withOptions table).optionTable = table) ∧
    ∀ (e : Expression) (ext : Extensions) (s : State),
      (e.withOptions pairs).invocation = e.invocation.withOptions pairs ∧
      (e.withOptions table).invocation = e.invocation.withOptions table ∧
      run ext (e.withOptions pairs) s = run ext (e.withOptions table) s := by
  intro table
  have htable : Entries.ofList table = table :=
    Entries.ofList_of_unique (Entries.unique_ofList pairs)
  refine ⟨⟨Entries.names_ofList pairs, Entries.get?_ofList pairs⟩, fun frame fuel nested h => ?_,
    fun frame body? h => ?_, fun i => ⟨rfl, htable⟩, fun e ext s => ⟨?_, ?_, ?_⟩⟩
  · constructor
    · rw [ofJson?_fill h, Invocation.optionsOfJson?_ofPairs]
      rfl
    · rw [ofJson?_fill h, Invocation.optionsOfJson?_ofTable]
      rfl
  · constructor
    · rw [branchOfJson?_fill h, Invocation.optionsOfJson?_ofPairs]
      rfl
    · rw [branchOfJson?_fill h, Invocation.optionsOfJson?_ofTable]
      rfl
  · exact invocation_withOptions pairs e
  · exact invocation_withOptions table e
  · exact run_withOptions ext htable.symm e s

/-- A table to look texts up in, with a key twice: in a call that is an object, and in a second
condition that is an array. -/
theorem options_spellings_lookupSample :
    let pairs := [("a", "1"), ("b", "2"), ("a", "3")]
    let table := [("a", "3"), ("b", "2")]
    let call := Frame.object [("type", .string "call")] [("name", .string "lookup")]
    let branch := Frame.array [.string "exists", .ofStrings ["title"]] [.array []]
    (call.HasBefore 3 ∧ branch.HasBefore 2) ∧
    (ofJson? 0 true (call.fill (.ofPairs pairs)) = some (.call ⟨"lookup", [], pairs⟩) ∧
      ofJson? 0 true (call.fill (.ofTable pairs)) = some (.call ⟨"lookup", [], table⟩)) ∧
    (branchOfJson? (listOfJson? 1 true) (branch.fill (.ofPairs pairs)) =
        some (⟨"exists", ["title"], pairs⟩, []) ∧
      branchOfJson? (listOfJson? 1 true) (branch.fill (.ofTable pairs)) =
        some (⟨"exists", ["title"], table⟩, [])) ∧
    Entries.ofList pairs = table := by
  intro pairs table call branch
  obtain ⟨-, hcall, hbranch, -⟩ := options_spellings pairs
  obtain ⟨hcallPairs, hcallTable⟩ := hcall call 0 true trivial
  obtain ⟨hbranchPairs, hbranchTable⟩ := hbranch branch (listOfJson? 1 true) rfl
  exact ⟨⟨trivial, rfl⟩, ⟨hcallPairs.trans rfl, hcallTable.trans rfl⟩,
    ⟨hbranchPairs.trans rfl, hbranchTable.trans rfl⟩, rfl⟩

end Expression

end RecordFix
