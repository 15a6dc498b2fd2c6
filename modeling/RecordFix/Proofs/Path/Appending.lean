import RecordFix.Proofs.Value.Leaves
import RecordFix.Record

/-!
# What adding to a path keeps

Adding a value to what is at the end of a path merges it with what a field holds. All strings in the
tree are kept then, as often as they were there. There are two places where strings are lost all the
same: at the end of a path an item that a position or `*` means is replaced, and on the way a field
is replaced that is called like a segment which is a pattern for other names. `Value.overwritten`
lists the strings at these places, and no others are lost (`Hash.leaves_appendPath`).
-/

namespace RecordFix

namespace Value

/-- The strings that are lost behind a segment in a hash, if `lostIn` is what is lost further on. A
container that is made for the segment takes the place of a field that is called like it. -/
def overwrittenInFields (head : String) (tail : Path) (lostIn : Value → List String)
    (fields : Hash) : List String :=
  if Hash.hasMatch fields head then
    (Hash.matching fields head).flatMap fun field => lostIn field.2
  else
    match newContainer head tail with
    | .ok _ => leavesOfItems (Entries.get? fields head).toList
    | .error _ => []

/-- The strings that are lost behind a segment in an array, if `lostIn` is what is lost in the items
that it means. -/
def overwrittenInItems (head : String) (lostIn : Value → List String) (items : List Value) :
    List String :=
  match Path.Step.ofSegment head with
  | .all => items.flatMap lostIn
  | .position p => ((p.index? items.length).bind (items[·]?)).toList.flatMap lostIn
  | .append | .field => []

/-- The strings that are lost when a value is added along a path: those of the items that the last
segment means in an array, and those of fields in whose place a container is made. -/
def overwritten : Path → Value → List String
  | [], _ | _, .string _ | [_], .hash _ => []
  | [segment], .array items => overwrittenInItems segment leaves items
  | head :: next :: tail, .hash fields =>
    overwrittenInFields head (next :: tail) (overwritten (next :: tail)) fields
  | head :: next :: tail, .array items =>
    overwrittenInItems head (overwritten (next :: tail)) items

end Value

/-! ## Texts that are kept -/

/-- No more of the texts are gone than those that are lost. -/
def Keeps (before after lost : List String) : Prop :=
  ∀ text, before.count text ≤ after.count text + lost.count text

namespace Keeps

variable {before after lost : List String}

theorem refl (texts lost : List String) : Keeps texts texts lost :=
  fun _ => Nat.le_add_right _ _

/-- Anything may come in the place of texts that are lost. -/
theorem of_lost (texts after : List String) : Keeps texts after texts :=
  fun _ => Nat.le_add_left _ _

theorem append {before' after' lost' : List String} (h : Keeps before after lost)
    (h' : Keeps before' after' lost') :
    Keeps (before ++ before') (after ++ after') (lost ++ lost') := by
  intro text
  have := h text
  have := h' text
  simp only [List.count_append]
  omega

theorem append_right (h : Keeps before after lost) (rest : List String) :
    Keeps (before ++ rest) (after ++ rest) lost :=
  List.append_nil lost ▸ h.append (refl rest [])

theorem append_left (h : Keeps before after lost) (first : List String) :
    Keeps (first ++ before) (first ++ after) lost := (refl first []).append h

theorem of_append (texts more lost : List String) : Keeps texts (texts ++ more) lost := by
  intro text
  rw [List.count_append]
  omega

end Keeps

namespace Value

variable {fields : Hash} {items : List Value} {name : String} {made : Value} {lost : List String}

/-- What is kept of the value of a field is kept of the fields. -/
theorem keeps_put (h : ∀ held ∈ Entries.get? fields name, Keeps held.leaves made.leaves lost) :
    Keeps (leavesOfFields fields) (leavesOfFields (Entries.put fields name made)) lost := by
  induction fields with
  | nil => exact Keeps.of_append [] _ lost
  | cons field rest ih =>
    obtain ⟨other, v⟩ := field
    rw [Entries.get?_cons] at h
    by_cases hother : other = name
    · rw [if_pos hother] at h
      rw [Entries.put, if_pos hother, leavesOfFields, leavesOfFields]
      exact (h v rfl).append_right _
    · rw [if_neg hother] at h
      rw [Entries.put, if_neg hother, leavesOfFields, leavesOfFields]
      exact (ih h).append_left _

/-- What is kept of an item is kept of the items. -/
theorem keeps_set {i : Nat} (h : ∀ held ∈ items[i]?, Keeps held.leaves made.leaves lost) :
    Keeps (leavesOfItems items) (leavesOfItems (items.set i made)) lost := by
  induction items generalizing i with
  | nil => exact Keeps.refl _ _
  | cons v rest ih =>
    cases i with
    | zero =>
      rw [List.set_cons_zero, leavesOfItems, leavesOfItems]
      exact (h v rfl).append_right _
    | succ i =>
      rw [List.set_cons_succ, leavesOfItems, leavesOfItems]
      exact (ih h).append_left _

/-! ## Edits one after the other -/

variable {edit next : Value → Edited Value} {lostIn : Value → List String}

theorem keeps_editItems (hedit : ∀ v, Keeps v.leaves (edit v).value.leaves (lostIn v))
    (items : List Value) :
    Keeps (leavesOfItems items) (leavesOfItems (editItems edit items).value)
      (items.flatMap lostIn) := by
  induction items with
  | nil => exact Keeps.refl _ _
  | cons v rest ih =>
    unfold editItems
    dsimp only
    split
    · exact (hedit v).append (.refl _ _)
    · exact (hedit v).append ih

theorem keeps_editFields (hedit : ∀ v, Keeps v.leaves (edit v).value.leaves (lostIn v))
    (p : FieldPattern) (fields : Hash) :
    Keeps (leavesOfFields fields) (leavesOfFields (editFields p edit fields).value)
      ((fields.filter fun field => p.holds field.1).flatMap fun field => lostIn field.2) := by
  induction fields with
  | nil => exact Keeps.refl _ _
  | cons field rest ih =>
    obtain ⟨name, v⟩ := field
    unfold editFields
    split
    · next hp =>
      rw [List.filter_cons, if_pos hp, List.flatMap_cons]
      dsimp only
      split
      · exact (hedit v).append (.refl _ _)
      · exact (hedit v).append ih
    · next hp =>
      rw [List.filter_cons, if_neg hp]
      exact ih.append_left _

/-! ## One segment -/

theorem keeps_add (fields : Hash) (name : String) (v : Value) :
    Keeps (leavesOfFields fields) (leavesOfFields (Hash.add fields name v)) [] := by
  unfold Hash.add
  cases hheld : Entries.get? fields name with
  | none =>
    refine keeps_put fun held hmem => ?_
    rw [hheld] at hmem
    cases hmem
  | some held =>
    refine keeps_put fun other hmem => ?_
    obtain rfl : held = other := Option.some.inj (hheld.symm.trans hmem)
    rw [leaves, leavesOfItems_append, leavesOfItems_toList]
    exact Keeps.of_append _ _ _

theorem keeps_append (fields : Hash) (name : String) (v : Value) :
    Keeps (leavesOfFields fields) (leavesOfFields (Hash.append fields name v)) [] := by
  unfold Hash.append
  split
  · next hnew =>
    refine keeps_put fun held hmem => ?_
    rw [Bool.and_eq_true, Entries.has_eq_isSome_get?, hmem] at hnew
    exact absurd hnew.2 Bool.false_ne_true
  · exact keeps_add fields name v

theorem keeps_set_of_index? {p : Path.Position} {i : Nat}
    (hi : p.index? items.length = some i)
    (h : ∀ held ∈ items[i]?, Keeps held.leaves made.leaves (lostIn held)) :
    Keeps (leavesOfItems items) (leavesOfItems (items.set i made))
      (((p.index? items.length).bind (items[·]?)).toList.flatMap lostIn) := by
  refine keeps_set fun held hheld => ?_
  have hlost : (some held).toList.flatMap lostIn = lostIn held := List.append_nil _
  rw [hi, Option.bind_some, Option.mem_def.mp hheld, hlost]
  exact h held hheld

theorem keeps_writeItem (v : Value) (segment : String) (items : List Value) :
    Keeps (leavesOfItems items) (leavesOfItems (writeItem v segment items).value)
      (overwrittenInItems segment leaves items) := by
  unfold writeItem overwrittenInItems
  cases Path.Step.ofSegment segment with
  | append | field =>
    rw [leavesOfItems_append]
    exact Keeps.of_append _ _ _
  | all =>
    rw [leavesOfItems_eq_flatMap]
    exact Keeps.of_lost _ _
  | position p =>
    dsimp only
    split
    · exact Keeps.refl _ _
    · next hi => exact keeps_set_of_index? hi fun _ _ => Keeps.of_lost _ _

theorem keeps_insertFields (hnext : ∀ v, Keeps v.leaves (next v).value.leaves (lostIn v))
    (head : String) (tail : Path) (fields : Hash) :
    Keeps (leavesOfFields fields) (leavesOfFields (insertFields head tail next fields).value)
      (overwrittenInFields head tail lostIn fields) := by
  unfold insertFields overwrittenInFields
  split
  · exact keeps_editFields hnext _ fields
  · cases newContainer head tail with
    | error e => exact Keeps.refl _ _
    | ok container =>
      refine keeps_put fun held hheld => ?_
      rw [Option.mem_def.mp hheld, leavesOfItems_eq_flatMap]
      exact (List.append_nil held.leaves).symm ▸ Keeps.of_lost _ _

theorem keeps_insertItems (hnext : ∀ v, Keeps v.leaves (next v).value.leaves (lostIn v))
    (head : String) (tail : Path) (items : List Value) :
    Keeps (leavesOfItems items) (leavesOfItems (insertItems head tail next items).value)
      (overwrittenInItems head lostIn items) := by
  unfold insertItems overwrittenInItems
  cases Path.Step.ofSegment head with
  | append | field =>
    dsimp only
    split
    · exact Keeps.refl _ _
    · rw [leavesOfItems_append]
      exact Keeps.of_append _ _ _
  | all =>
    dsimp only
    refine keeps_editItems (fun v => ?_) items
    split
    · exact Keeps.refl _ _
    · exact hnext v
  | position p =>
    dsimp only
    split
    · exact Keeps.refl _ _
    · next hi =>
      split
      · exact Keeps.refl _ _
      · next item hitem =>
        refine keeps_set_of_index? hi fun held hheld => ?_
        obtain rfl : item = held := Option.some.inj (hitem.symm.trans hheld)
        exact hnext item

/-! ## Whole paths -/

theorem keeps_insert (v : Value) (p : Path) (target : Value) :
    Keeps target.leaves (insert .append v p target).value.leaves (overwritten p target) := by
  induction p generalizing target with
  | nil => exact Keeps.refl _ _
  | cons head tail ih =>
    cases tail with
    | nil =>
      cases target with
      | string s => exact Keeps.refl _ _
      | hash fields => exact keeps_append fields head v
      | array items => exact keeps_writeItem v head items
    | cons next tail =>
      cases target with
      | string s => exact Keeps.refl _ _
      | hash fields =>
        rw [overwritten]
        exact keeps_insertFields ih head (next :: tail) fields
      | array items =>
        rw [overwritten]
        exact keeps_insertItems ih head (next :: tail) items

end Value

/-- The path ends in a new place, and each segment before is a pattern for its own name at least. -/
structure Path.Adds (p : Path) : Prop where
  last : ∀ segment ∈ p.getLast?,
    Path.Step.ofSegment segment = .append ∨ Path.Step.ofSegment segment = .field
  before : ∀ segment ∈ p.dropLast, (FieldPattern.ofString segment).holds segment = true

namespace Hash

theorem get?_of_not_hasMatch {fields : Hash} {segment : String}
    (hself : (FieldPattern.ofString segment).holds segment = true)
    (hnone : ¬ fields.hasMatch segment = true) : Entries.get? fields segment = none := by
  cases hheld : Entries.get? fields segment with
  | none => rfl
  | some held =>
    have hmatching : (segment, held) ∈ fields.matching segment :=
      List.mem_filter.mpr ⟨Entries.mem_of_get?_eq hheld, hself⟩
    refine absurd ?_ hnone
    rw [hasMatch, Bool.not_eq_true', List.isEmpty_eq_false_iff]
    exact List.ne_nil_of_mem hmatching

end Hash

namespace Value

theorem overwrittenInItems_eq_nil {lostIn : Value → List String} (segment : String)
    (h : ∀ v, lostIn v = []) (items : List Value) :
    overwrittenInItems segment lostIn items = [] := by
  unfold overwrittenInItems
  split
  · exact List.flatMap_eq_nil_iff.mpr fun v _ => h v
  · exact List.flatMap_eq_nil_iff.mpr fun v _ => h v
  · rfl
  · rfl

theorem overwrittenInFields_eq_nil {lostIn : Value → List String} {segment : String}
    (hself : (FieldPattern.ofString segment).holds segment = true) (h : ∀ v, lostIn v = [])
    (tail : Path) (fields : Hash) : overwrittenInFields segment tail lostIn fields = [] := by
  unfold overwrittenInFields
  split
  · exact List.flatMap_eq_nil_iff.mpr fun field _ => h field.2
  · next hnone =>
    rw [Hash.get?_of_not_hasMatch hself hnone]
    split <;> rfl

theorem overwritten_of_adds {p : Path} (hp : p.Adds) (target : Value) :
    overwritten p target = [] := by
  induction p generalizing target with
  | nil => rfl
  | cons head tail ih =>
    cases tail with
    | nil =>
      cases target with
      | string | hash => rfl
      | array items =>
        rw [overwritten, overwrittenInItems]
        rcases hp.last head rfl with hstep | hstep <;> rw [hstep]
    | cons next tail =>
      have htail : Path.Adds (next :: tail) :=
        ⟨hp.last, fun segment hmem => hp.before segment (List.mem_cons_of_mem _ hmem)⟩
      cases target with
      | string => rfl
      | hash fields =>
        rw [overwritten]
        exact overwrittenInFields_eq_nil (hp.before head List.mem_cons_self) (ih htail) _ fields
      | array items =>
        rw [overwritten]
        exact overwrittenInItems_eq_nil head (ih htail) items

end Value

namespace Hash

/-- Adding a value along a path loses no strings but those that are overwritten, however far it
comes. A path that ends in a new place and whose segments are patterns for their own names
overwrites nothing. -/
theorem leaves_appendPath (h : Hash) (p : Path) (v : Value) (text : String) :
    let before := (Value.hash h).leaves
    let after := (Value.hash (h.appendPath p v).value).leaves
    before.count text ≤ after.count text + (Value.overwritten p (.hash h)).count text ∧
      (p.Adds → before.count text ≤ after.count text) := by
  intro before after
  have hafter : Value.hash (h.appendPath p v).value =
      (Value.insert .append v p (.hash h)).value :=
    congrArg Edited.value (map_hash_insert h .append p v)
  have hkeeps : Keeps before after (Value.overwritten p (.hash h)) := by
    show Keeps before (Value.hash (h.appendPath p v).value).leaves _
    rw [hafter]
    exact Value.keeps_insert v p (.hash h)
  refine ⟨hkeeps text, fun hp => ?_⟩
  have hcount := hkeeps text
  rwa [Value.overwritten_of_adds hp] at hcount

/-- A value that is added to an item of an array takes its place. -/
theorem leaf_lost_at_position :
    ¬ ∀ (h : Hash) (p : Path) (v : Value) (text : String),
      (Value.hash h).leaves.count text ≤
        (Value.hash (h.appendPath p v).value).leaves.count text := by
  intro hall
  have hlost := hall [("a", .array [.string "x"])] ["a", "1"] (.string "y") "x"
  exact absurd hlost (by decide +kernel)

/-- A field that is called like a pattern for other names gives way to a new hash. -/
example :
    (appendPath [("a|b", .hash [("d", .string "x")])] ["a|b", "c"] (.string "y")).value =
      [("a|b", .hash [("c", .string "y")])] := by
  decide +kernel

end Hash

end RecordFix
