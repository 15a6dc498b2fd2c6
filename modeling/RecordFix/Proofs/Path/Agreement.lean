import Mathlib.Data.List.Basic
import Mathlib.Tactic.Common
import RecordFix.Proofs.Path.Addressed
import RecordFix.Value.Strings

/-!
# Reading and editing address the same strings

Reading along a path collects what it finds, while an edit is applied to each value in its place.
The strings that are read are those of the values that an edit is given, in the same order
(`Hash.strings_handed`), as long as the two take the path in the same way. They part where a segment
names several fields of one hash: reading goes on in the array of their values, the group, and
editing goes on in each of them. `Value.GroupsSpread` says that the rest of the path means the same
in a group as in its members; a position does not, since it picks one of the members.
-/

namespace RecordFix

/-- The strings that a path leads to; none if it leads nowhere. -/
def Value.stringsFound (found : Option Value) : List String :=
  (found.map Value.strings).getD []

/-- The values that an edit along a path gives to the editor, in order. -/
def Hash.handed {σ : Type} (h : Hash) (p : Path) (f : Editor σ) (s : σ) : List Value :=
  (h.transformWith p f.recording (s, [])).value.2.2

namespace Path

/-- Whether reading along the path in an array is reading along it in each of the items: the path is
at its end, or its first segment is no position, no new place and not `*`. -/
def Spreads : Path → Prop
  | [] => True
  | segment :: _ => Step.ofSegment segment = .field

/-- Whether the path means the same in a group as in each of its members. With `*` it does so if the
members are arrays and what follows spreads over them. -/
def SpreadsOver (p : Path) (group : List Value) : Prop :=
  p.Spreads ∨ ∃ tail, p = "*" :: tail ∧ Spreads tail ∧ ∀ v ∈ group, v.kind = .array

end Path

namespace Value

mutual

/-- Takes the first segment of a path, with what is asked of the values it leads to. -/
def groupsSpreadStep (head : String) (tail : Path) (next : Value → Prop) : Value → Prop
  | .string _ => True
  | .hash fields =>
    let values := (Hash.matching fields head).map (·.2)
    (2 ≤ values.length → tail.SpreadsOver values) ∧ ∀ v ∈ values, next v
  | .array items =>
    match Path.Step.ofSegment head with
    | .append => True
    | .all => ∀ v ∈ items, next v
    | .position p => ∀ v ∈ (p.index? items.length).bind (items[·]?), next v
    | .field => groupsSpreadItems head tail next items

/-- Takes the first segment of a path in each of the items. -/
def groupsSpreadItems (head : String) (tail : Path) (next : Value → Prop) : List Value → Prop
  | [] => True
  | v :: rest => groupsSpreadStep head tail next v ∧ groupsSpreadItems head tail next rest

end

/-- Wherever the path names several fields of one hash, the rest of the path means the same in the
group of their values as in each of them. -/
def GroupsSpread : Path → Value → Prop
  | [], _ => True
  | head :: tail, v => groupsSpreadStep head tail (GroupsSpread tail) v

mutual

theorem groupsSpreadStep_of_spreads {head : String} {tail : Path} {next : Value → Prop}
    (htail : tail.Spreads) (hnext : ∀ v, next v) (v : Value) :
    groupsSpreadStep head tail next v := by
  match v with
  | .string _ => trivial
  | .hash fields => exact ⟨fun _ => .inl htail, fun w _ => hnext w⟩
  | .array items =>
    cases hstep : Path.Step.ofSegment head <;> simp only [groupsSpreadStep, hstep]
    · exact fun w _ => hnext w
    · exact fun w _ => hnext w
    · exact groupsSpreadItems_of_spreads htail hnext items

theorem groupsSpreadItems_of_spreads {head : String} {tail : Path} {next : Value → Prop}
    (htail : tail.Spreads) (hnext : ∀ v, next v) (items : List Value) :
    groupsSpreadItems head tail next items := by
  match items with
  | [] => trivial
  | v :: rest =>
    exact ⟨groupsSpreadStep_of_spreads htail hnext v,
      groupsSpreadItems_of_spreads htail hnext rest⟩

end

/-- A path that goes on in field names alone means the same in every group. -/
theorem groupsSpread_of_fields {p : Path}
    (hp : ∀ segment ∈ p.tail, Path.Step.ofSegment segment = .field) (v : Value) :
    GroupsSpread p v := by
  induction p generalizing v with
  | nil => trivial
  | cons head tail ih =>
    have htail : Path.Spreads tail := by
      cases tail with
      | nil => trivial
      | cons next rest => exact hp next (by simp)
    exact groupsSpreadStep_of_spreads htail
      (ih fun segment hs => hp segment (List.mem_of_mem_tail hs)) v

/-! ## The strings of what is found -/

theorem stringsFound_collect (values : List Value) :
    stringsFound (collect values) = values.flatMap strings := by
  unfold collect
  split_ifs with h
  · rw [List.isEmpty_iff.mp h]
    rfl
  · exact strings_array values

theorem flatMap_strings_toList (found : Option Value) :
    found.toList.flatMap strings = stringsFound found := by
  cases found with
  | none => rfl
  | some v => exact List.flatMap_singleton ..

theorem flatMap_stringsFound (f : Value → Option Value) (items : List Value) :
    (items.filterMap f).flatMap strings = items.flatMap fun v => stringsFound (f v) := by
  induction items with
  | nil => rfl
  | cons v rest ih =>
    rw [List.flatMap_cons, ← ih]
    cases h : f v with
    | none => rw [List.filterMap_cons_none h]; rfl
    | some w => rw [List.filterMap_cons_some h]; rfl

theorem findStepItems_flatMap_strings (head : String) (tail : Path) (next : Value → Option Value)
    (items : List Value) :
    (findStepItems head tail next items).flatMap strings =
      items.flatMap fun v => stringsFound (findStep head tail next v) := by
  induction items with
  | nil => rw [findStepItems]; rfl
  | cons v rest ih =>
    rw [findStepItems, List.flatMap_append, ih, List.flatMap_cons, flatMap_strings_toList]

/-- A path that spreads reads from an array what it reads from its items. -/
theorem stringsFound_array {p : Path} (hp : p.Spreads) (items : List Value) :
    stringsFound (find p (.array items)) = items.flatMap fun v => stringsFound (find p v) := by
  cases p with
  | nil => exact strings_array items
  | cons head tail =>
    have hstep : Path.Step.ofSegment head = .field := hp
    simp only [find, findStep, hstep]
    rw [stringsFound_collect, findStepItems_flatMap_strings]

theorem stringsFound_all_array {head : String} (hstep : Path.Step.ofSegment head = .all)
    (tail : Path) (items : List Value) :
    stringsFound (find (head :: tail) (.array items)) =
      items.flatMap fun v => stringsFound (find tail v) := by
  simp only [find, findStep, hstep]
  cases tail with
  | nil => exact strings_array items
  | cons next rest =>
    simp only [List.isEmpty_cons, Bool.false_eq_true, if_false]
    rw [stringsFound_collect, flatMap_stringsFound]

/-- A path that means the same in a group and in its members reads the same strings in both. -/
theorem stringsFound_group {p : Path} {group : List Value} (hp : p.SpreadsOver group) :
    stringsFound (find p (.array group)) = group.flatMap fun v => stringsFound (find p v) := by
  rcases hp with hp | ⟨tail, rfl, htail, harray⟩
  · exact stringsFound_array hp group
  · have hstep : Path.Step.ofSegment "*" = .all := by decide
    rw [stringsFound_all_array hstep]
    refine List.flatMap_congr fun v hv => ?_
    cases v with
    | string s => exact absurd (harray _ hv) (by simp [kind])
    | hash fields => exact absurd (harray _ hv) (by simp [kind])
    | array items => rw [stringsFound_array htail, stringsFound_all_array hstep]

theorem stringsFound_bind_group (tail : Path) {values : List Value}
    (hspread : 2 ≤ values.length → tail.SpreadsOver values) :
    stringsFound ((Hash.group values).bind (find tail)) =
      values.flatMap fun v => stringsFound (find tail v) := by
  match values with
  | [] => rfl
  | [v] => exact (List.flatMap_singleton ..).symm
  | v :: w :: rest => exact stringsFound_group (hspread (by simp))

/-! ## What is read is what is edited -/

mutual

theorem stringsFound_findStep {head : String} {tail : Path}
    (hnext : ∀ v, GroupsSpread tail v →
      stringsFound (find tail v) = (addressed tail v).flatMap strings)
    (v : Value) (hv : groupsSpreadStep head tail (GroupsSpread tail) v) :
    stringsFound (findStep head tail (find tail) v) =
      (addressedStep head (addressed tail) v).flatMap strings := by
  match v with
  | .string _ => rw [findStep, addressedStep]; rfl
  | .hash fields =>
    obtain ⟨hspread, hvalues⟩ := hv
    rw [findStep, addressedStep, List.flatMap_assoc]
    exact (stringsFound_bind_group tail hspread).trans
      (List.flatMap_congr fun w hw => hnext w (hvalues w hw))
  | .array items =>
    cases hstep : Path.Step.ofSegment head with
    | append => simp only [findStep, addressedStep, hstep]; rfl
    | all =>
      simp only [groupsSpreadStep, hstep] at hv
      have hfound := stringsFound_all_array hstep tail items
      rw [find] at hfound
      rw [hfound]
      simp only [addressedStep, hstep]
      rw [List.flatMap_assoc]
      exact List.flatMap_congr fun w hw => hnext w (hv w hw)
    | position p =>
      simp only [groupsSpreadStep, hstep] at hv
      simp only [findStep, addressedStep, hstep]
      cases hitem : (p.index? items.length).bind (items[·]?) with
      | none => rfl
      | some w =>
        rw [Option.toList_some, List.flatMap_singleton]
        exact hnext w (hv w hitem)
    | field =>
      simp only [groupsSpreadStep, hstep] at hv
      simp only [findStep, addressedStep, hstep]
      rw [stringsFound_collect]
      exact strings_findStepItems hnext items hv

theorem strings_findStepItems {head : String} {tail : Path}
    (hnext : ∀ v, GroupsSpread tail v →
      stringsFound (find tail v) = (addressed tail v).flatMap strings)
    (items : List Value) (hitems : groupsSpreadItems head tail (GroupsSpread tail) items) :
    (findStepItems head tail (find tail) items).flatMap strings =
      (addressedStepItems head (addressed tail) items).flatMap strings := by
  match items with
  | [] => rw [findStepItems, addressedStepItems]
  | v :: rest =>
    obtain ⟨hv, hrest⟩ := hitems
    rw [findStepItems, addressedStepItems, List.flatMap_append, List.flatMap_append,
      strings_findStepItems hnext rest hrest, ← stringsFound_findStep hnext v hv,
      flatMap_strings_toList]

end

/-- The strings that are read along a path are those of the values it leads an edit to. -/
theorem stringsFound_find {p : Path} {v : Value} (h : GroupsSpread p v) :
    stringsFound (find p v) = (addressed p v).flatMap strings := by
  induction p generalizing v with
  | nil => exact (List.flatMap_singleton ..).symm
  | cons head tail ih => exact stringsFound_findStep (fun _ => ih) v h

end Value

/-! ## The values that an edit is given -/

theorem Hash.handed_prefix {σ : Type} (h : Hash) (p : Path) (f : Editor σ) (s : σ) :
    h.handed p f s <+: Value.addressed p (.hash h) ∧
      ((h.transformWith p f s).error = none → h.handed p f s = Value.addressed p (.hash h)) := by
  have herror : (h.transformWith p f s).error = (f.feed (Value.addressed p (.hash h)) s).error :=
    congrArg Edited.error (h.state_transformWith p f s)
  obtain ⟨noted, hpre, hall, heq⟩ := f.feed_recording (Value.addressed p (.hash h)) s []
  have hhanded : h.handed p f s = noted := by
    have hstate := congrArg (fun e => e.value.2) (h.state_transformWith p f.recording (s, []))
    rw [heq] at hstate
    exact hstate
  rw [hhanded, herror]
  exact ⟨hpre, hall⟩

/-- The strings that a path leads to are, in order, those of the values that an edit along the path
gives to its editor. If the editor fails they are the first of them. -/
theorem Hash.strings_handed {σ : Type} (h : Hash) (p : Path) (f : Editor σ) (s : σ)
    (hspread : Value.GroupsSpread p (.hash h)) :
    (h.handed p f s).flatMap Value.strings <+: Value.stringsFound (h.findPath p) ∧
      ((h.transformWith p f s).error = none →
        (h.handed p f s).flatMap Value.strings = Value.stringsFound (h.findPath p)) := by
  obtain ⟨⟨rest, hrest⟩, hall⟩ := h.handed_prefix p f s
  have hfound : Value.stringsFound (h.findPath p) =
      (Value.addressed p (.hash h)).flatMap Value.strings := Value.stringsFound_find hspread
  constructor
  · rw [hfound, ← hrest, List.flatMap_append]
    exact List.prefix_append ..
  · intro herror
    rw [hfound, hall herror]

/-- Two fields that `a*` names, with an array of hashes and a hash. -/
def Hash.wildcardSample : Hash :=
  [("a1", .array [.hash [("x", .string "1")], .hash [("x", .string "2")]]), ("b", .string "y"),
    ("a2", .hash [("x", .string "3")])]

theorem Hash.strings_handed_wildcardSample :
    Value.GroupsSpread ["a*", "x"] (.hash wildcardSample) ∧
      (wildcardSample.handed ["a*", "x"] (fun _ n => (.ok none, n + 1)) 0).flatMap Value.strings =
        ["1", "2", "3"] := by
  have hspread : Value.GroupsSpread ["a*", "x"] (.hash wildcardSample) :=
    Value.groupsSpread_of_fields (by decide) _
  refine ⟨hspread, ((strings_handed _ _ _ 0 hspread).2 ?_).trans ?_⟩
  · decide +kernel
  · decide +kernel

/-- In a group a position picks one of the values, and an edit looks for the position in each. -/
theorem Hash.position_in_group :
    ¬ ∀ (h : Hash) (p : Path) (f : Editor Unit), (h.transformWith p f ()).error = none →
      (h.handed p f ()).flatMap Value.strings = Value.stringsFound (h.findPath p) := by
  intro hall
  have hfalse := hall [("a1", .string "x"), ("a2", .string "y")] ["a*", "1"]
    (fun v s => (.ok (some v), s)) (by decide +kernel)
  exact absurd hfalse (by decide +kernel)

end RecordFix
