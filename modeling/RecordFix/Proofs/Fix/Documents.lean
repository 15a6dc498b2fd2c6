import RecordFix.Command.Outcome
import RecordFix.Proofs.Encoding.Utf8
import RecordFix.Proofs.Json.Reading
import RecordFix.Proofs.Json.Typed

/-!
# Fixes are read back from their documents

Each kind of expression is told by its tag, and its fields are found among the members. The reader
of bodies takes fuel, of which the nesting of a document is enough (`Expression.ofJson?_toJson`). So
the file of a fix loses nothing: what is loaded is the fix that was written
(`Fix.loadFix_of_written`).
-/

namespace RecordFix

open Json

/-! ## Invocations -/

namespace Invocation

theorem ofFields?_toMembers (i : Invocation) :
    ofFields? (some (.string i.name)) (some (.ofStrings i.params)) (some (.ofPairs i.options)) =
      some i := by
  have hparams : Json.optional [] strings? (some (.ofStrings i.params)) = some i.params :=
    strings?_ofStrings i.params
  have hoptions : Json.optional [] optionsOfJson? (some (.ofPairs i.options)) = some i.options :=
    mapM_stringPair?_ofPairs i.options
  rw [ofFields?, hparams, hoptions]
  rfl

theorem textual_toMembers (i : Invocation) : TextualMembers i.toMembers := by
  rw [toMembers, TextualMembers, TextualMembers, TextualMembers, TextualMembers, Textual]
  exact ⟨trivial, textual_ofStrings i.params, textual_ofPairs i.options, trivial⟩

end Invocation

theorem ExpressionKind.ofJson?_word (nested : Bool) (kind : ExpressionKind) :
    ofJson? nested (.string kind.word) = some kind := by
  cases kind <;> rfl

namespace Expression

/-! ## Single expressions -/

/-- The expression of an item of an array. Its bodies may take as much fuel as there is. -/
def ofJson? (fuel : Nat) (nested : Bool) (item : Json) : Option Expression :=
  (untag? nested item).bind fun (kind, fields) => ofFields? (listOfJson? fuel true) kind fields

/-- A tag in front of members that are no tags tells the kind. -/
theorem ofJson?_object (fuel : Nat) (nested : Bool) (kind : ExpressionKind)
    {members : List (String × Json)} (h : ∀ member ∈ members, member.1 ≠ "type") :
    ofJson? fuel nested (.object (("type", .string kind.word) :: members)) =
      ofFields? (listOfJson? fuel true) kind (.object members) := by
  have htags : (("type", Json.string kind.word) :: members).filter (·.1 == "type") =
      [("type", .string kind.word)] := by
    rw [List.filter_cons_of_pos (by simp), List.filter_eq_nil_iff.mpr]
    exact fun member hmember => by simpa using h member hmember
  have hothers : (("type", Json.string kind.word) :: members).filter (·.1 != "type") =
      members := by
    rw [List.filter_cons_of_neg (by simp), List.filter_eq_self]
    exact fun member hmember => by simpa using h member hmember
  simp only [ofJson?, untag?, htags, hothers, ExpressionKind.ofJson?_word]
  rfl

variable {body? : Json → Option (List Expression)}

theorem ofFields?_call (i : Invocation) :
    ofFields? body? .call (.object i.toMembers) = some (.call i) := by
  have hunique : Entries.Unique i.toMembers := by
    show ["name", "params", "options"].Nodup
    decide
  have hfields : fields? (ExpressionKind.fields .call) (.object i.toMembers) =
      some [some (.string i.name), some (.ofStrings i.params), some (.ofPairs i.options)] := by
    rw [fields?_object hunique]
    rfl
  rw [ofFields?, hfields]
  show (Invocation.ofFields? _ _ _ >>= _) = _
  rw [i.ofFields?_toMembers]
  rfl

/-- The fields of a block with a body. -/
theorem fields?_block (i : Invocation) (elements : Json) :
    fields? (ExpressionKind.fields .ifNot) (.object (i.toMembers ++ [("elements", elements)])) =
      some [some (.string i.name), some (.ofStrings i.params), some (.ofPairs i.options),
        some elements] := by
  have hunique : Entries.Unique (i.toMembers ++ [("elements", elements)]) := by
    show ["name", "params", "options", "elements"].Nodup
    decide
  rw [fields?_object hunique]
  rfl

/-- What is made of an invocation and a body is made of what they are read as. -/
theorem bind_block {α : Type} (i : Invocation) {elements : Json} {body : List Expression}
    (h : body? elements = some body) (make : Invocation → List Expression → Option α) :
    (do
      let i ← Invocation.ofFields? (some (.string i.name)) (some (.ofStrings i.params))
        (some (.ofPairs i.options))
      let body ← Json.optional [] body? (some elements)
      make i body) = make i body := by
  have hbody : Json.optional [] body? (some elements) = some body := h
  rw [i.ofFields?_toMembers, hbody]
  rfl

theorem ofFields?_bind (i : Invocation) {elements : Json} {body : List Expression}
    (h : body? elements = some body) :
    ofFields? body? .bind (.object (i.toMembers ++ [("elements", elements)])) =
      some (.bind i body) := by
  have hkind : ExpressionKind.fields .bind = ExpressionKind.fields .ifNot := rfl
  rw [ofFields?, hkind, fields?_block]
  exact bind_block i h fun i body => some (Expression.bind i body)

theorem ofFields?_ifNot (i : Invocation) {elements : Json} {body : List Expression}
    (h : body? elements = some body) :
    ofFields? body? .ifNot (.object (i.toMembers ++ [("elements", elements)])) =
      some (.ifNot i body) := by
  rw [ofFields?, fields?_block]
  exact bind_block i h fun i body => some (Expression.ifNot i body)

theorem branchOfJson?_object (i : Invocation) {elements : Json} {body : List Expression}
    (h : body? elements = some body) :
    branchOfJson? body? (.object (i.toMembers ++ [("elements", elements)])) = some (i, body) := by
  rw [branchOfJson?, fields?_block]
  exact bind_block i h fun i body => some (i, body)

/-- The fields of a condition; the last two are there if they were written. -/
theorem fields?_ifElse (i : Invocation) (elements : Json)
    (elsif : Option (Invocation × List Expression)) (otherwise : Option (List Expression)) :
    fields? (ExpressionKind.fields .ifElse)
        (.object (i.toMembers ++ [("elements", elements)] ++ toJsonBranch elsif ++
          toJsonElse otherwise)) =
      some [some (.string i.name), some (.ofStrings i.params), some (.ofPairs i.options),
        some elements, (toJsonBranch elsif).lookup "elsif",
        (toJsonElse otherwise).lookup "else"] := by
  have hunique : Entries.Unique (i.toMembers ++ [("elements", elements)] ++ toJsonBranch elsif ++
      toJsonElse otherwise) := by
    rcases elsif with _ | ⟨branch, elsifBody⟩ <;> rcases otherwise with _ | elseBody
    · show ["name", "params", "options", "elements"].Nodup
      decide
    · show ["name", "params", "options", "elements", "else"].Nodup
      decide
    · show ["name", "params", "options", "elements", "elsif"].Nodup
      decide
    · show ["name", "params", "options", "elements", "elsif", "else"].Nodup
      decide
  rw [fields?_object hunique]
  rcases elsif with _ | ⟨branch, elsifBody⟩ <;> rcases otherwise with _ | elseBody <;> rfl

/-- A condition is read back if its bodies are, and if its second condition and its last block are
where they were written. -/
theorem ofFields?_ifElse (i : Invocation) {elements : Json} {body : List Expression}
    {elsif : Option (Invocation × List Expression)} {otherwise : Option (List Expression)}
    (hbody : body? elements = some body)
    (helsif : Json.optional none (Json.nullable (branchOfJson? body?))
      ((toJsonBranch elsif).lookup "elsif") = some elsif)
    (helse : Json.optional none (Json.nullable body?) ((toJsonElse otherwise).lookup "else") =
      some otherwise) :
    ofFields? body? .ifElse
        (.object (i.toMembers ++ [("elements", elements)] ++ toJsonBranch elsif ++
          toJsonElse otherwise)) =
      some (.ifElse i body elsif otherwise) := by
  rw [ofFields?, fields?_ifElse]
  refine (bind_block i hbody fun i body =>
    Json.optional none (Json.nullable (branchOfJson? body?))
      ((toJsonBranch elsif).lookup "elsif") >>= fun elsif =>
        Json.optional none (Json.nullable body?) ((toJsonElse otherwise).lookup "else") >>=
          fun otherwise => some (Expression.ifElse i body elsif otherwise)).trans ?_
  rw [helsif]
  show (Json.optional none _ _ >>= _) = _
  rw [helse]
  rfl

/-! ## Expressions inside each other -/

theorem listOfJson?_array (fuel : Nat) (nested : Bool) (items : List Json) :
    listOfJson? (fuel + 1) nested (.array items) = items.mapM (ofJson? fuel nested) := rfl

/-- An array is read as its items are, with one unit of fuel less. -/
theorem listOfJson?_of_mapM {items : List Json} {es : List Expression} {fuel : Nat} (nested : Bool)
    (h : ∀ less, depthOfItems items ≤ less → items.mapM (ofJson? less nested) = some es)
    (hdepth : depthOfItems items + 1 ≤ fuel) :
    listOfJson? fuel nested (.array items) = some es := by
  obtain ⟨less, rfl⟩ : ∃ less, fuel = less + 1 := ⟨fuel - 1, by omega⟩
  rw [listOfJson?_array]
  exact h less (by omega)

mutual

/-- An expression is read back from its document, if the document is nested no deeper than the fuel
allows. -/
theorem ofJson?_toJson (fuel : Nat) (nested : Bool) (e : Expression)
    (hdepth : (toJson e).depth ≤ fuel) : ofJson? fuel nested (toJson e) = some e := by
  match e with
  | .call i =>
    rw [toJson]
    exact (ofJson?_object fuel nested .call (by simp [Invocation.toMembers])).trans
      (ofFields?_call i)
  | .bind i body =>
    simp only [toJson, depth, depthOfMembers, depthOfMembers_append] at hdepth
    have hbody : listOfJson? fuel true (.array (toJsonList body)) = some body :=
      listOfJson?_of_mapM true (fun less => mapM_toJsonList less true body) (by omega)
    rw [toJson]
    exact (ofJson?_object fuel nested .bind (by simp [Invocation.toMembers])).trans
      (ofFields?_bind i hbody)
  | .ifNot i body =>
    simp only [toJson, depth, depthOfMembers, depthOfMembers_append] at hdepth
    have hbody : listOfJson? fuel true (.array (toJsonList body)) = some body :=
      listOfJson?_of_mapM true (fun less => mapM_toJsonList less true body) (by omega)
    rw [toJson]
    exact (ofJson?_object fuel nested .ifNot (by simp [Invocation.toMembers])).trans
      (ofFields?_ifNot i hbody)
  | .ifElse i body elsif otherwise =>
    simp only [toJson, depth, depthOfMembers, depthOfMembers_append] at hdepth
    have hbody : listOfJson? fuel true (.array (toJsonList body)) = some body :=
      listOfJson?_of_mapM true (fun less => mapM_toJsonList less true body) (by omega)
    have helsif := branch_toJsonBranch fuel elsif (by omega)
    have helse := body_toJsonElse fuel otherwise (by omega)
    have htag : ∀ member ∈ i.toMembers ++ [("elements", .array (toJsonList body))] ++
        toJsonBranch elsif ++ toJsonElse otherwise, member.1 ≠ "type" := by
      rcases elsif with _ | ⟨branch, elsifBody⟩ <;> rcases otherwise with _ | elseBody <;>
        simp [Invocation.toMembers, toJsonBranch, toJsonElse]
    rw [toJson]
    exact (ofJson?_object fuel nested .ifElse htag).trans (ofFields?_ifElse i hbody helsif helse)

theorem mapM_toJsonList (fuel : Nat) (nested : Bool) (es : List Expression)
    (hdepth : depthOfItems (toJsonList es) ≤ fuel) :
    (toJsonList es).mapM (ofJson? fuel nested) = some es := by
  match es with
  | [] =>
    rw [toJsonList]
    rfl
  | e :: rest =>
    rw [toJsonList, depthOfItems] at hdepth
    rw [toJsonList, List.mapM_cons, ofJson?_toJson fuel nested e (by omega),
      mapM_toJsonList fuel nested rest (by omega)]
    rfl

/-- A second condition is read back, and that there is none. -/
theorem branch_toJsonBranch (fuel : Nat) (elsif : Option (Invocation × List Expression))
    (hdepth : depthOfMembers (toJsonBranch elsif) ≤ fuel) :
    Json.optional none (Json.nullable (branchOfJson? (listOfJson? fuel true)))
      ((toJsonBranch elsif).lookup "elsif") = some elsif := by
  match elsif with
  | none =>
    rw [toJsonBranch]
    rfl
  | some (i, body) =>
    simp only [toJsonBranch, depth, depthOfMembers, depthOfMembers_append] at hdepth
    have hbody : listOfJson? fuel true (.array (toJsonList body)) = some body :=
      listOfJson?_of_mapM true (fun less => mapM_toJsonList less true body) (by omega)
    rw [toJsonBranch]
    show (branchOfJson? _ _).map some = _
    rw [branchOfJson?_object i hbody]
    rfl

/-- A last block is read back, and that there is none. -/
theorem body_toJsonElse (fuel : Nat) (otherwise : Option (List Expression))
    (hdepth : depthOfMembers (toJsonElse otherwise) ≤ fuel) :
    Json.optional none (Json.nullable (listOfJson? fuel true))
      ((toJsonElse otherwise).lookup "else") = some otherwise := by
  match otherwise with
  | none =>
    rw [toJsonElse]
    rfl
  | some body =>
    simp only [toJsonElse, depth, depthOfMembers] at hdepth
    have hbody : listOfJson? fuel true (.array (toJsonList body)) = some body :=
      listOfJson?_of_mapM true (fun less => mapM_toJsonList less true body) (by omega)
    rw [toJsonElse]
    show (listOfJson? fuel true _).map some = _
    rw [hbody]
    rfl

end

/-! ## The documents of fixes are made of strings, arrays and objects -/

mutual

theorem textual_toJson (e : Expression) : (toJson e).Textual := by
  match e with
  | .call i =>
    rw [toJson, Textual, TextualMembers, Textual]
    exact ⟨trivial, i.textual_toMembers⟩
  | .bind i body | .ifNot i body =>
    simp only [toJson, Textual, TextualMembers, textualMembers_append]
    exact ⟨trivial, i.textual_toMembers, textualItems_toJsonList body, trivial⟩
  | .ifElse i body elsif otherwise =>
    simp only [toJson, Textual, TextualMembers, textualMembers_append]
    exact ⟨trivial, ⟨⟨i.textual_toMembers, textualItems_toJsonList body, trivial⟩,
      textualMembers_toJsonBranch elsif⟩, textualMembers_toJsonElse otherwise⟩

theorem textualItems_toJsonList (es : List Expression) : TextualItems (toJsonList es) := by
  match es with
  | [] =>
    rw [toJsonList, TextualItems]
    trivial
  | e :: rest =>
    rw [toJsonList, TextualItems]
    exact ⟨textual_toJson e, textualItems_toJsonList rest⟩

theorem textualMembers_toJsonBranch (elsif : Option (Invocation × List Expression)) :
    TextualMembers (toJsonBranch elsif) := by
  match elsif with
  | none =>
    rw [toJsonBranch, TextualMembers]
    trivial
  | some (i, body) =>
    simp only [toJsonBranch, Textual, TextualMembers, textualMembers_append]
    exact ⟨⟨i.textual_toMembers, textualItems_toJsonList body, trivial⟩, trivial⟩

theorem textualMembers_toJsonElse (otherwise : Option (List Expression)) :
    TextualMembers (toJsonElse otherwise) := by
  match otherwise with
  | none =>
    rw [toJsonElse, TextualMembers]
    trivial
  | some body =>
    simp only [toJsonElse, Textual, TextualMembers]
    exact ⟨textualItems_toJsonList body, trivial⟩

end

end Expression

/-! ## Whole fixes -/

namespace Fix

theorem textual_toJson (fix : Fix) : fix.toJson.Textual := by
  rw [toJson, Textual]
  exact Expression.textualItems_toJsonList fix

theorem ofJson?_toJson (fix : Fix) (hdepth : fix.toJson.depth ≤ maxDepth) :
    ofJson? fix.toJson = some fix := by
  rw [toJson, depth] at hdepth
  exact Expression.listOfJson?_of_mapM false
    (fun less => Expression.mapM_toJsonList less false fix) hdepth

/-- The file of a fix loses nothing, if it is nested no deeper than documents may be: from the
compact and from the indented text the same fix is loaded, with all its expressions, their names,
parameters, options and bodies. -/
theorem loadFix_of_written (fix : Fix) (hdepth : fix.toJson.depth ≤ maxDepth) {text : String}
    (htext : text = fix.toJson.compact ∨ text = fix.toJson.indented) :
    parse? text = some fix ∧
      ∀ (files : Files) (path : String), files.readText path = .ok text →
        Command.loadFix files path = .ok fix := by
  have hdocument : Json.parse? text = some fix.toJson := by
    rcases htext with rfl | rfl
    · exact parse?_compact fix.textual_toJson hdepth
    · exact parse?_indented fix.textual_toJson hdepth
  have hparse : parse? text = some fix := by
    rw [parse?, hdocument]
    exact fix.ofJson?_toJson hdepth
  refine ⟨hparse, fun files path hread => ?_⟩
  simp only [Command.loadFix, hread, hparse]

/-- Conditions with an empty last block and without one, and a block with an option given twice. -/
def branchesSample : Fix :=
  [.ifElse ⟨"exists", ["a"], []⟩ [.ifElse ⟨"exists", ["b"], []⟩ [] none none]
    (some (⟨"any_equal", ["a", "\"\n"], []⟩, []))
    (some []),
  .bind ⟨"list", [], [("path", "a"), ("path", "b")]⟩ [.ofUnless "is_array" ["$i"] []]]

/-- Its file gives the same fix again, with both values of the option and the empty last block. -/
theorem loadFix_of_written_branchesSample :
    let files : Files := { entry := fun path =>
      if path = "fix.json" then .file branchesSample.toJson.compact.toUTF8.toList else .missing }
    (branchesSample.toJson.depth = 5 ∧
      files.readText "fix.json" = .ok branchesSample.toJson.compact) ∧
      parse? branchesSample.toJson.compact = some branchesSample ∧
      Command.loadFix files "fix.json" = .ok branchesSample := by
  intro files
  have hread : files.readText "fix.json" = .ok branchesSample.toJson.compact :=
    Files.readText_of_toUTF8 (by simp [files])
  obtain ⟨hparse, hload⟩ :=
    loadFix_of_written branchesSample (by decide +kernel) (.inl rfl)
  exact ⟨⟨by decide +kernel, hread⟩, hparse, hload files "fix.json" hread⟩

end Fix

end RecordFix
