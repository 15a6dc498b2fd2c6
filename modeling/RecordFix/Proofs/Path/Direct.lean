import RecordFix.Record

/-!
# Direct paths

What a direct path leads to is what reading finds as long as the segments, read as patterns, name
the fields that are called like them and no others (`Hash.findPath_of_directArray?`); a path without
wildcards is always read so. A change at a direct path is seen there (`direct?_modifyDirect`), later
changes replace earlier ones (`modifyDirect_modifyDirect`), and all that is not on the path stays as
it is (`sameExceptAt_modifyDirect`).
-/

namespace RecordFix

/-- None of the segments has wildcards. -/
def Path.Literal (p : Path) : Prop := ∀ segment ∈ p, (FieldPattern.ofString segment).isLiteral

instance (p : Path) : Decidable p.Literal := by unfold Path.Literal; infer_instance

/-- The index that a segment means in an array of this length. -/
def Path.index? (segment : String) (length : Nat) : Option Nat :=
  match Path.Step.ofSegment segment with
  | .position p => p.index? length
  | _ => none

theorem Path.exists_position_of_index? {segment : String} {length i : Nat}
    (h : index? segment length = some i) :
    ∃ p, Step.ofSegment segment = .position p ∧ p.index? length = some i := by
  unfold index? at h
  split at h
  · next p hp => exact ⟨p, hp, h⟩
  · cases h

namespace Value

theorem direct?_array (head : String) (tail : Path) (items : List Value) :
    direct? (head :: tail) (.array items) =
      ((Path.index? head items.length).bind (items[·]?)).bind (direct? tail) := by
  rw [direct?, Path.index?]
  cases Path.Step.ofSegment head <;> rfl

theorem find_item {items : List Value} {segment : String} {i : Nat} {rest : Path}
    (hi : Path.index? segment items.length = some i) :
    find (segment :: rest) (.array items) = items[i]?.bind (find rest) := by
  obtain ⟨q, hstep, hq⟩ := Path.exists_position_of_index? hi
  rw [find, findStep, hstep]
  simp only [hq, Option.bind_some]

end Value

/-! ## Texts that name what is called like them -/

/-- Among these names the text, read as a pattern, names the one that it is, and no other. -/
def FieldPattern.ExactAmong (s : String) (names : List String) : Prop :=
  ∀ name ∈ names, (ofString s).holds name = true ↔ name = s

instance (s : String) (names : List String) : Decidable (FieldPattern.ExactAmong s names) := by
  unfold FieldPattern.ExactAmong
  infer_instance

theorem FieldPattern.exactAmong_of_isLiteral {s : String} (hs : (ofString s).isLiteral)
    (names : List String) : ExactAmong s names := by
  intro name _
  rw [ofString_of_isLiteral hs, holds, beq_iff_eq]
  exact eq_comm

namespace Hash

variable {h : Hash} {segment : String}

theorem matching_of_exactAmong (hs : FieldPattern.ExactAmong segment (Entries.names h)) :
    h.matching segment = h.filter fun field => segment == field.1 := by
  refine List.filter_congr fun field hfield => Bool.eq_iff_iff.mpr ?_
  rw [hs field.1 (List.mem_map_of_mem hfield), beq_iff_eq]
  exact eq_comm

theorem matching_of_isLiteral (hs : (FieldPattern.ofString segment).isLiteral) :
    h.matching segment = h.filter fun field => segment == field.1 :=
  matching_of_exactAmong (FieldPattern.exactAmong_of_isLiteral hs _)

theorem find_of_exactAmong (hu : Entries.Unique h)
    (hs : FieldPattern.ExactAmong segment (Entries.names h)) :
    h.find segment = Entries.get? h segment := by
  rw [find, matching_of_exactAmong hs, Entries.filter_eq_get? hu]
  cases Entries.get? h segment <;> rfl

theorem find_of_isLiteral (hu : Entries.Unique h)
    (hs : (FieldPattern.ofString segment).isLiteral) :
    h.find segment = Entries.get? h segment :=
  find_of_exactAmong hu (FieldPattern.exactAmong_of_isLiteral hs _)

theorem hasMatch_of_exactAmong (hs : FieldPattern.ExactAmong segment (Entries.names h)) :
    h.hasMatch segment = Entries.has h segment := by
  rw [hasMatch, matching_of_exactAmong hs, Entries.has, Bool.eq_iff_iff]
  simp [@eq_comm _ segment]

end Hash

/-! ## Reading where a direct path leads -/

namespace Value

/-- Wherever a segment of the path meets a hash on the way, it names the field that is called like
it and no other. -/
def ExactAlong : Path → Value → Prop
  | [], _ => True
  | head :: tail, v =>
    match v with
    | .string _ => True
    | .hash fields =>
      FieldPattern.ExactAmong head (Entries.names fields) ∧
        ∀ child ∈ Entries.get? fields head, ExactAlong tail child
    | .array items =>
      ∀ i ∈ Path.index? head items.length, ∀ child ∈ items[i]?, ExactAlong tail child

/-- Decides whether the segments of a path name what is called like them alone. -/
def decExactAlong : (p : Path) → (v : Value) → Decidable (ExactAlong p v)
  | [], _ => isTrue trivial
  | _ :: _, .string _ => isTrue trivial
  | head :: tail, .hash fields =>
    have := decExactAlong tail
    inferInstanceAs (Decidable (FieldPattern.ExactAmong head (Entries.names fields) ∧
      ∀ child ∈ Entries.get? fields head, ExactAlong tail child))
  | head :: tail, .array items =>
    have := decExactAlong tail
    inferInstanceAs (Decidable (∀ i ∈ Path.index? head items.length, ∀ child ∈ items[i]?,
      ExactAlong tail child))

instance (p : Path) (v : Value) : Decidable (ExactAlong p v) := decExactAlong p v

theorem exactAlong_of_literal {p : Path} (hp : p.Literal) (v : Value) : ExactAlong p v := by
  induction p generalizing v with
  | nil => trivial
  | cons head tail ih =>
    have htail : Path.Literal tail := fun segment hs => hp segment (List.mem_cons_of_mem _ hs)
    cases v with
    | string s => trivial
    | hash fields =>
      exact ⟨FieldPattern.exactAmong_of_isLiteral (hp head List.mem_cons_self) _,
        fun child _ => ih htail child⟩
    | array items => exact fun _ _ child _ => ih htail child

theorem find_eq_direct? {p : Path} {v w : Value} (hp : ExactAlong p v) (hv : v.Distinct)
    (h : v.direct? p = some w) : v.find p = some w := by
  induction p generalizing v with
  | nil => exact h
  | cons head tail ih =>
    cases v with
    | string s => simp [direct?] at h
    | hash fields =>
      obtain ⟨hu, hfields⟩ := distinct_hash.mp hv
      simp only [direct?, Option.bind_eq_some_iff] at h
      obtain ⟨child, hchild, hw⟩ := h
      rw [find, findStep, Hash.find_of_exactAmong hu hp.1, hchild]
      exact ih (hp.2 child hchild) (hfields _ (Entries.mem_of_get?_eq hchild)) hw
    | array items =>
      simp only [direct?_array, Option.bind_eq_some_iff] at h
      obtain ⟨child, ⟨i, hi, hchild⟩, hw⟩ := h
      rw [find_item hi, hchild]
      exact ih (hp i hi child hchild) (distinct_array.mp hv _ (List.mem_of_getElem? hchild)) hw

end Value

theorem Record.find_eq_direct? {r : Record} {p : Path} {w : Value} (hp : p.Literal)
    (hr : (Value.hash r.fields).Distinct) (hne : p ≠ [])
    (h : (Value.hash r.fields).direct? p = some w) : r.find p = some w := by
  cases p with
  | nil => exact absurd rfl hne
  | cons head tail =>
    have hfind := Value.find_eq_direct? (Value.exactAlong_of_literal hp _) hr h
    have hhead : (r.fields.find head).bind (Value.find tail) = some w := by
      simpa only [Value.find, Value.findStep] using hfind
    have hmatch : r.fields.hasMatch head = true := by
      unfold Hash.hasMatch
      cases hm : r.fields.matching head with
      | nil => simp [Hash.find, hm, Hash.group] at hhead
      | cons => rfl
    rw [Record.find, Record.get]
    simp only [Path.head, List.headD_cons, hmatch, if_true]
    exact hhead

/-! ## Changing what a direct path leads to -/

namespace Value

variable (f g : Value → Value)

theorem modifyDirect_array (head : String) (tail : Path) (items : List Value) :
    modifyDirect f (head :: tail) (.array items) =
      match Path.index? head items.length with
      | some i => .array (items.modify i (modifyDirect f tail))
      | none => .array items := by
  rw [modifyDirect, Path.index?]
  cases Path.Step.ofSegment head <;> rfl

theorem direct?_modifyDirect (p : Path) (v : Value) :
    direct? p (modifyDirect f p v) = (direct? p v).map f := by
  induction p generalizing v with
  | nil => rfl
  | cons head tail ih =>
    cases v with
    | string s => rfl
    | hash fields =>
      cases hchild : Entries.get? fields head with
      | none => simp [modifyDirect, direct?, hchild]
      | some child => simp [modifyDirect, direct?, hchild, Entries.get?_put_self, ih]
    | array items =>
      rw [modifyDirect_array, direct?_array]
      cases hi : Path.index? head items.length with
      | none => simp [direct?_array, hi]
      | some i =>
        rw [direct?_array, List.length_modify, hi]
        simp only [Option.bind_some, List.getElem?_modify, if_true]
        cases items[i]? with
        | none => rfl
        | some child => simp [ih]

/-- Of two changes at one place only the second counts if it does not look at what it replaces. -/
theorem modifyDirect_modifyDirect (p : Path) (v : Value) :
    modifyDirect f p (modifyDirect g p v) = modifyDirect (fun w => f (g w)) p v := by
  induction p generalizing v with
  | nil => rfl
  | cons head tail ih =>
    cases v with
    | string s => rfl
    | hash fields =>
      cases hchild : Entries.get? fields head with
      | none => simp [modifyDirect, hchild]
      | some child =>
        simp [modifyDirect, hchild, Entries.get?_put_self, Entries.put_put, ih]
    | array items =>
      rw [modifyDirect_array, modifyDirect_array]
      cases hi : Path.index? head items.length with
      | none => simp [modifyDirect_array, hi]
      | some i =>
        simp only [modifyDirect_array, List.length_modify, hi]
        rw [List.modify_modify_eq]
        exact congrArg (fun h => array (items.modify i h)) (funext ih)

/-- A change that keeps the value at a direct path, if there is one, keeps everything. -/
theorem modifyDirect_of_fixed {p : Path} {v : Value} (h : ∀ w ∈ direct? p v, f w = w) :
    modifyDirect f p v = v := by
  induction p generalizing v with
  | nil => exact h v rfl
  | cons head tail ih =>
    cases v with
    | string s => rfl
    | hash fields =>
      cases hchild : Entries.get? fields head with
      | none => simp [modifyDirect, hchild]
      | some child =>
        have hfixed := ih fun w hw => h w (by rwa [direct?, hchild])
        simp [modifyDirect, hchild, hfixed, Entries.put_of_get?_eq hchild]
    | array items =>
      rw [modifyDirect_array]
      cases hi : Path.index? head items.length with
      | none => rfl
      | some i =>
        refine congrArg array (List.ext_getElem? fun j => ?_)
        by_cases hij : i = j
        · subst hij
          cases hchild : items[i]? with
          | none => simp [hchild]
          | some child =>
            rw [List.getElem?_modify_eq, hchild]
            refine congrArg some (ih fun w hw => h w ?_)
            rwa [direct?_array, hi, Option.bind_some, hchild]
        · rw [List.getElem?_modify_ne _ _ hij]

/-- Whether two values are the same but for what a direct path leads to: hashes on the way have the
same names in the same order and arrays the same length, and fields and items beside the path are
equal. -/
def SameExceptAt : Path → Value → Value → Prop
  | [], _, _ => True
  | head :: tail, v, w =>
    match v, w with
    | .hash fields, .hash others =>
      Entries.names fields = Entries.names others ∧
        (∀ name, name ≠ head → Entries.get? fields name = Entries.get? others name) ∧
        ∀ a ∈ Entries.get? fields head, ∀ b ∈ Entries.get? others head, SameExceptAt tail a b
    | .array items, .array others =>
      items.length = others.length ∧
        (∀ i, Path.index? head items.length ≠ some i → items[i]? = others[i]?) ∧
        ∀ i ∈ Path.index? head items.length, ∀ a ∈ items[i]?, ∀ b ∈ others[i]?,
          SameExceptAt tail a b
    | v, w => v = w

theorem sameExceptAt_refl (p : Path) (v : Value) : SameExceptAt p v v := by
  induction p generalizing v with
  | nil => trivial
  | cons head tail ih =>
    cases v with
    | string s => rfl
    | hash fields =>
      refine ⟨rfl, fun _ _ => rfl, fun a ha b hb => ?_⟩
      obtain rfl : a = b := Option.some.inj (ha.symm.trans hb)
      exact ih a
    | array items =>
      refine ⟨rfl, fun _ _ => rfl, fun i _ a ha b hb => ?_⟩
      obtain rfl : a = b := Option.some.inj (ha.symm.trans hb)
      exact ih a

theorem sameExceptAt_modifyDirect (p : Path) (v : Value) :
    SameExceptAt p v (modifyDirect f p v) := by
  induction p generalizing v with
  | nil => trivial
  | cons head tail ih =>
    cases v with
    | string s => rfl
    | hash fields =>
      cases hchild : Entries.get? fields head with
      | none =>
        simp only [modifyDirect, hchild]
        exact sameExceptAt_refl _ _
      | some child =>
        simp only [modifyDirect, hchild]
        refine ⟨(Entries.names_put_of_get?_eq hchild _).symm,
          fun name hne => (Entries.get?_put_of_ne hne _ _).symm, fun a ha b hb => ?_⟩
        rw [Entries.get?_put_self] at hb
        rw [hchild] at ha
        cases ha
        cases hb
        exact ih child
    | array items =>
      rw [modifyDirect_array]
      cases hi : Path.index? head items.length with
      | none => exact sameExceptAt_refl _ _
      | some i =>
        refine ⟨(List.length_modify ..).symm, fun j hj => ?_, fun j hj a ha b hb => ?_⟩
        · have hij : i ≠ j := fun h => hj (h ▸ hi)
          rw [List.getElem?_modify_ne _ _ hij]
        · obtain rfl : i = j := Option.some.inj (hi.symm.trans hj)
          rw [List.getElem?_modify_eq, ha] at hb
          cases hb
          exact ih a

end Value

/-! ## The array at a direct path -/

/-- A change of items as a change of values, which passes over all that is no array. -/
def Value.onArray (f : List Value → List Value) : Value → Value
  | .array items => .array (f items)
  | v => v

namespace Hash

variable {h : Hash} {p : Path} {items : List Value}

theorem direct?_of_directArray? (hp : h.directArray? p = some items) :
    (Value.hash h).direct? p = some (.array items) := by
  unfold directArray? at hp
  split at hp
  · next hd => rw [hd, Option.some.inj hp]
  · cases hp

theorem ne_nil_of_directArray? (hp : h.directArray? p = some items) : p ≠ [] := by
  rintro rfl
  cases hp

theorem hash_modifyArray (h : Hash) (p : Path) (f : List Value → List Value) :
    Value.hash (h.modifyArray p f) = (Value.hash h).modifyDirect (Value.onArray f) p := by
  cases p with
  | nil => rfl
  | cons head tail =>
    have hhash : ∃ fields, (Value.hash h).modifyDirect (Value.onArray f) (head :: tail) =
        .hash fields := by
      rw [Value.modifyDirect]
      split
      · exact ⟨_, rfl⟩
      · exact ⟨_, rfl⟩
    obtain ⟨fields, hfields⟩ := hhash
    rw [hfields]
    unfold modifyArray
    dsimp only
    split
    · rename_i left hleft
      exact hleft.symm.trans hfields
    · rename_i hother
      exact absurd hfields (hother fields)

theorem directArray?_modifyArray (hp : h.directArray? p = some items)
    (f : List Value → List Value) : (h.modifyArray p f).directArray? p = some (f items) := by
  unfold directArray?
  rw [hash_modifyArray, Value.direct?_modifyDirect, direct?_of_directArray? hp]
  rfl

theorem modifyArray_modifyArray (h : Hash) (p : Path) (f g : List Value → List Value) :
    (h.modifyArray p f).modifyArray p g = h.modifyArray p fun items => g (f items) := by
  have hcomp : (fun v => Value.onArray g (Value.onArray f v)) =
      Value.onArray fun items => g (f items) := by
    funext v
    cases v <;> rfl
  apply Value.hash.inj
  rw [hash_modifyArray, hash_modifyArray, hash_modifyArray, Value.modifyDirect_modifyDirect, hcomp]

theorem modifyArray_of_fixed {f : List Value → List Value}
    (hf : ∀ items, h.directArray? p = some items → f items = items) : h.modifyArray p f = h := by
  apply Value.hash.inj
  rw [hash_modifyArray]
  refine Value.modifyDirect_of_fixed _ fun w hw => ?_
  cases w with
  | array items => exact congrArg Value.array (hf items (by rw [directArray?, hw]))
  | _ => rfl

theorem sameExceptAt_modifyArray (h : Hash) (p : Path) (f : List Value → List Value) :
    Value.SameExceptAt p (.hash h) (.hash (h.modifyArray p f)) := by
  rw [hash_modifyArray]
  exact Value.sameExceptAt_modifyDirect ..

theorem names_modifyArray (h : Hash) (p : Path) (f : List Value → List Value) :
    Entries.names (h.modifyArray p f) = Entries.names h := by
  cases p with
  | nil => rfl
  | cons head tail => exact (sameExceptAt_modifyArray h (head :: tail) f).1.symm

/-- Only the field that the path starts with tells where the path leads. -/
theorem directArray?_congr {other : Hash}
    (hget : Entries.get? h p.head = Entries.get? other p.head) :
    h.directArray? p = other.directArray? p := by
  cases p with
  | nil => rfl
  | cons head tail =>
    have hhead : Entries.get? h head = Entries.get? other head := hget
    unfold directArray?
    rw [Value.direct?, Value.direct?, hhead]

/-- What a direct path leads to without some field, it leads to with the field as well. -/
theorem directArray?_of_erase {name : String}
    (herase : directArray? (Entries.erase h name) p = some items) :
    h.directArray? p = some items := by
  by_cases hhead : p.head = name
  · cases p with
    | nil => cases herase
    | cons head tail =>
      have hgone : Entries.get? (Entries.erase h name) head = none := by
        rw [show head = name from hhead]
        exact Entries.get?_erase_self h name
      simp [directArray?, Value.direct?, hgone] at herase
  · rwa [directArray?_congr (Entries.get?_erase_of_ne hhead h)] at herase

/-- The array at a direct path is the one that reading finds, if the segments name what is called
like them and nothing else. -/
theorem findPath_of_directArray? (hh : (Value.hash h).Distinct)
    (hp : Value.ExactAlong p (.hash h)) (hitems : h.directArray? p = some items) :
    h.findPath p = some (.array items) :=
  Value.find_eq_direct? hp hh (direct?_of_directArray? hitems)

/-- A hash with a field that is called like a pattern for several of its fields, and with one that
is called like a pattern for itself alone. -/
def patternNamesSample : Hash :=
  [("a*", .array [.string "x"]), ("ab", .string "y"), ("c?", .hash [("d", .array [])])]

/-- A wildcard that finds just the field of its own name does no harm. -/
theorem findPath_of_directArray?_patternNamesSample :
    let p : Path := ["c?", "d"]
    Value.ExactAlong p (.hash patternNamesSample) ∧
      patternNamesSample.findPath p = some (.array []) := by
  intro p
  have hexact : Value.ExactAlong p (.hash patternNamesSample) := by decide +kernel
  exact ⟨hexact, findPath_of_directArray? (by decide) hexact (by decide +kernel)⟩

/-- A wildcard that is also the name of a field leads to the array in this field, and is read as all
the fields that it names. -/
theorem array_beside_group :
    ¬ ∀ (h : Hash) (p : Path) (items : List Value), (Value.hash h).Distinct →
      h.directArray? p = some items → h.findPath p = some (.array items) := by
  intro hall
  have hfalse := hall patternNamesSample ["a*"] [.string "x"] (by decide) (by decide +kernel)
  exact absurd hfalse (by decide +kernel)

end Hash

theorem Record.find_of_directArray? {r : Record} {p : Path} {items : List Value} (hp : p.Literal)
    (hr : (Value.hash r.fields).Distinct) (hitems : r.fields.directArray? p = some items) :
    r.find p = some (.array items) :=
  Record.find_eq_direct? hp hr (Hash.ne_nil_of_directArray? hitems)
    (Hash.direct?_of_directArray? hitems)

end RecordFix
