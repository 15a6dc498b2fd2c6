import RecordFix.Json.Parser
import RecordFix.Proofs.Json.Spelling

/-!
# Documents are read back

The tokens of a document make the builder give that document to the container around it
(`Builder.foldlM_tokens`), provided that it is nested no deeper than allowed (`Json.depth`). With
what is known of spelling, a text that spells documents one after the other is read as these
documents (`documents?_of_spells`), and so the compact and the indented text of a document are read
as the document (`parse?_compact`, `parse?_indented`).
-/

namespace RecordFix.Json

mutual

/-- How deep arrays and objects are nested in a document. -/
def depth : Json → Nat
  | .array items => depthOfItems items + 1
  | .object members => depthOfMembers members + 1
  | _ => 0

/-- How deep arrays and objects are nested in items. -/
def depthOfItems : List Json → Nat
  | [] => 0
  | item :: rest => max (depth item) (depthOfItems rest)

/-- How deep arrays and objects are nested in members. -/
def depthOfMembers : List (String × Json) → Nat
  | [] => 0
  | (_, value) :: rest => max (depth value) (depthOfMembers rest)

end

theorem depth_le_depthOfItems {items : List Json} {item : Json} (h : item ∈ items) :
    item.depth ≤ depthOfItems items := by
  induction h with
  | head => exact Nat.le_max_left _ _
  | tail _ _ ih => exact Nat.le_trans ih (Nat.le_max_right _ _)

theorem depthOfMembers_append (members others : List (String × Json)) :
    depthOfMembers (members ++ others) = max (depthOfMembers members) (depthOfMembers others) := by
  induction members with
  | nil => exact (Nat.zero_max _).symm
  | cons member rest ih =>
    rw [List.cons_append, depthOfMembers, depthOfMembers, ih, Nat.max_assoc]

/-! ## The builder on the tokens of a document -/

namespace Builder

/-- A value may come next. -/
def AwaitsValue (b : Builder) : Prop := b.expected = .value ∨ b.expected = .firstItem

theorem AwaitsValue.depth_eq {b : Builder} (hb : b.AwaitsValue) :
    b.depth = b.containers.length := by
  rcases hb with h | h <;> simp [Builder.depth, h]

/-- Only the end of an array means something else where the first item may come. -/
theorem AwaitsValue.step_eq {b : Builder} (hb : b.AwaitsValue) (t : Token) (ht : t ≠ .closeArray) :
    b.step t = b.startValue t := by
  unfold step
  rcases hb with h | h <;> simp only [h]
  split
  · exact absurd rfl ht
  · rfl

theorem step_openArray {b : Builder} (hb : b.AwaitsValue) (h : b.containers.length < maxDepth) :
    b.step .openArray = some ⟨.firstItem, .array [] :: b.containers, b.done⟩ := by
  rw [hb.step_eq .openArray nofun, startValue, hb.depth_eq, if_pos h]

theorem step_openObject {b : Builder} (hb : b.AwaitsValue) (h : b.containers.length < maxDepth) :
    b.step .openObject = some ⟨.firstKey [], b.containers, b.done⟩ := by
  rw [hb.step_eq .openObject nofun, startValue, hb.depth_eq, if_pos h]

mutual

/-- The tokens of a document are read as the document. -/
theorem foldlM_tokens (value : Json) (b : Builder) (hb : b.AwaitsValue)
    (hdepth : b.containers.length + value.depth ≤ maxDepth) :
    (tokens value).foldlM step b = some (give value b.containers b.done) := by
  match value with
  | .null | .bool _ | .number _ | .string _ =>
    unfold tokens
    rw [List.foldlM_cons, hb.step_eq]
    · rfl
    · nofun
  | .array [] =>
    rw [Json.depth] at hdepth
    rw [tokens, List.foldlM_cons, step_openArray hb (by omega), tokensOfItems]
    rfl
  | .array (item :: rest) =>
    rw [Json.depth, depthOfItems] at hdepth
    -- The first item stands in an open array that is still empty; all others follow an item.
    have hitem := foldlM_tokens item ⟨.firstItem, .array [] :: b.containers, b.done⟩ (.inr rfl)
      (by rw [List.length_cons]; omega)
    have hrest := foldlM_tokensOfItems rest [item] b.containers b.done (by omega)
    rw [tokens, List.foldlM_cons, step_openArray hb (by omega), tokensOfItems, separated,
      List.append_assoc]
    show List.foldlM step _ _ = _
    rw [List.foldlM_append, hitem]
    exact hrest
  | .object [] =>
    rw [Json.depth] at hdepth
    rw [tokens, List.foldlM_cons, step_openObject hb (by omega), tokensOfMembers]
    rfl
  | .object ((key, first) :: rest) =>
    rw [Json.depth, depthOfMembers] at hdepth
    have hfirst := foldlM_tokens first ⟨.value, .object [] key :: b.containers, b.done⟩ (.inl rfl)
      (by rw [List.length_cons]; omega)
    have hrest := foldlM_tokensOfMembers rest [(key, first)] key b.containers b.done (by omega)
    rw [tokens, List.foldlM_cons, step_openObject hb (by omega), tokensOfMembers, separated,
      List.append_assoc]
    show List.foldlM step ⟨.value, .object [] key :: b.containers, b.done⟩ (tokens first ++ _) = _
    rw [List.foldlM_append, hfirst]
    exact hrest

/-- The tokens of further items of an open array, and of its end. -/
theorem foldlM_tokensOfItems (items seen : List Json) (outer : List Container) (done : List Json)
    (hdepth : outer.length + 1 + depthOfItems items ≤ maxDepth) :
    ((tokensOfItems items).flatMap (Token.comma :: ·) ++ [Token.closeArray]).foldlM step
        ⟨.follower, .array seen :: outer, done⟩ =
      some (give (.array (seen.reverse ++ items)) outer done) := by
  match items with
  | [] =>
    rw [tokensOfItems, List.append_nil]
    rfl
  | item :: rest =>
    rw [depthOfItems] at hdepth
    have hitem := foldlM_tokens item ⟨.value, .array seen :: outer, done⟩ (.inl rfl)
      (by rw [List.length_cons]; omega)
    have hrest := foldlM_tokensOfItems rest (item :: seen) outer done (by omega)
    rw [List.reverse_cons, List.append_assoc] at hrest
    rw [tokensOfItems, List.flatMap_cons, List.append_assoc]
    show List.foldlM step ⟨.value, .array seen :: outer, done⟩ (tokens item ++ _) = _
    rw [List.foldlM_append, hitem]
    exact hrest

/-- The tokens of further members of an open object, and of its end. -/
theorem foldlM_tokensOfMembers (members seen : List (String × Json)) (key : String)
    (outer : List Container) (done : List Json)
    (hdepth : outer.length + 1 + depthOfMembers members ≤ maxDepth) :
    ((tokensOfMembers members).flatMap (Token.comma :: ·) ++ [Token.closeObject]).foldlM step
        ⟨.follower, .object seen key :: outer, done⟩ =
      some (give (.object (seen.reverse ++ members)) outer done) := by
  match members with
  | [] =>
    rw [tokensOfMembers, List.append_nil]
    rfl
  | (next, value) :: rest =>
    rw [depthOfMembers] at hdepth
    have hvalue := foldlM_tokens value ⟨.value, .object seen next :: outer, done⟩ (.inl rfl)
      (by rw [List.length_cons]; omega)
    have hrest := foldlM_tokensOfMembers rest ((next, value) :: seen) next outer done (by omega)
    rw [List.reverse_cons, List.append_assoc] at hrest
    rw [tokensOfMembers, List.flatMap_cons, List.append_assoc]
    show List.foldlM step ⟨.value, .object seen next :: outer, done⟩ (tokens value ++ _) = _
    rw [List.foldlM_append, hvalue]
    exact hrest

end

/-- Documents one after the other, none of them nested too deep. -/
theorem foldlM_flatMap_tokens (documents done : List Json)
    (hdepth : ∀ j ∈ documents, j.depth ≤ maxDepth) :
    (documents.flatMap tokens).foldlM step ⟨.value, [], done⟩ =
      some ⟨.value, [], documents.reverse ++ done⟩ := by
  induction documents generalizing done with
  | nil => rfl
  | cons document rest ih =>
    have hfirst := foldlM_tokens document ⟨.value, [], done⟩ (.inl rfl)
      (by simpa using hdepth document List.mem_cons_self)
    rw [List.flatMap_cons, List.foldlM_append, hfirst, List.reverse_cons, List.append_assoc]
    exact ih (document :: done) fun j hj => hdepth j (List.mem_cons_of_mem _ hj)

end Builder

/-! ## Reading what is written -/

/-- A text that spells documents one after the other is read as these documents. -/
theorem documents?_of_spells {text : List Char} {documents : List Json}
    (h : Token.Spells text (documents.flatMap tokens))
    (hdepth : ∀ j ∈ documents, j.depth ≤ maxDepth) : documents? text = some documents := by
  have hbuilt := Builder.foldlM_flatMap_tokens documents [] hdepth
  rw [List.append_nil] at hbuilt
  rw [documents?, tokens?_of_spells h]
  show (List.foldlM Builder.step _ _ >>= _) = _
  rw [hbuilt]
  exact congrArg some documents.reverse_reverse

/-- A text that spells one document is read as that document. -/
theorem parse?_of_spells {text : String} {document : Json}
    (h : Token.Spells text.toList (tokens document)) (hdepth : document.depth ≤ maxDepth) :
    parse? text = some document := by
  have hread : documents? text.toList = some [document] :=
    documents?_of_spells (by simpa using h) (by simpa using hdepth)
  rw [parse?, hread]

theorem parse?_compact {document : Json} (h : document.Textual)
    (hdepth : document.depth ≤ maxDepth) : parse? document.compact = some document := by
  refine parse?_of_spells ?_ hdepth
  rw [compact, String.toList_ofList]
  exact spells_write document h

theorem parse?_indented {document : Json} (h : document.Textual)
    (hdepth : document.depth ≤ maxDepth) : parse? document.indented = some document := by
  refine parse?_of_spells ?_ hdepth
  rw [indented, String.toList_ofList]
  exact spells_writeIndented 0 document h

end RecordFix.Json
