import RecordFix.Fix.Session
import RecordFix.Proofs.Path.Errors
import RecordFix.Proofs.Path.Items
import RecordFix.Proofs.Value.Leaves

/-!
# Replacing the values along a path

An edit that puts something in the place of every value it comes to succeeds, and what is in these
places alone is changed (`Hash.transform_eq_replaceAlong`). So the strings of the tree are those
that are left and those that the replaced values have lost (`Value.parts_replaceAlong`). An edit
that cannot replace one of the values fails as it does at the first of them
(`Hash.error_transform`).
-/

namespace RecordFix

variable {σ : Type}

namespace Value

/-- The value with what a path leads to replaced. -/
def replaceAlong (f : Value → Value) : Path → Value → Value
  | [] => f
  | head :: tail => removeStep head (some (replaceAlong f tail))

theorem mapFields_cons (p : FieldPattern) (f : Value → Value) (name : String) (v : Value)
    (rest : Hash) :
    mapFields p f ((name, v) :: rest) =
      (name, if p.holds name = true then f v else v) :: mapFields p f rest := rfl

theorem removeStepItems_eq_map (head : String) (next : Option (Value → Value))
    (items : List Value) : removeStepItems head next items = items.map (removeStep head next) := by
  induction items with
  | nil => rw [removeStepItems]; rfl
  | cons v rest ih => rw [removeStepItems, List.map_cons, ih]

/-! ## Visits that replace -/

/-- The visit puts what `f` makes of the value in its place, whatever the state. -/
def Replaces (visit : Value → σ → Edited (Option Value × σ)) (f : Value → Value) (v : Value) :
    Prop :=
  ∀ s, ∃ s', visit v s = ⟨(some (f v), s'), none⟩

section Visit

variable {visit : Value → σ → Edited (Option Value × σ)} {f : Value → Value}

theorem visitItems_of_replaces {items : List Value} (h : ∀ v ∈ items, Replaces visit f v) (s : σ) :
    ∃ s', visitItems visit items s = ⟨(items.map f, s'), none⟩ := by
  induction items generalizing s with
  | nil => exact ⟨s, rfl⟩
  | cons v rest ih =>
    obtain ⟨hv, hrest⟩ := List.forall_mem_cons.mp h
    obtain ⟨s₁, hv⟩ := hv s
    obtain ⟨s₂, hrest⟩ := ih hrest s₁
    exact ⟨s₂, visitItems_cons_of_eq hv hrest⟩

theorem visitFields_of_replaces {p : FieldPattern} {fields : Hash}
    (h : ∀ field ∈ fields, p.holds field.1 = true → Replaces visit f field.2) (s : σ) :
    ∃ s', visitFields p visit fields s = ⟨(mapFields p f fields, s'), none⟩ := by
  induction fields generalizing s with
  | nil => exact ⟨s, rfl⟩
  | cons field rest ih =>
    obtain ⟨name, v⟩ := field
    obtain ⟨hv, hrest⟩ := List.forall_mem_cons.mp h
    by_cases hp : p.holds name = true
    · obtain ⟨s₁, hv⟩ := hv hp s
      obtain ⟨s₂, hrest⟩ := ih hrest s₁
      refine ⟨s₂, ?_⟩
      rw [mapFields_cons, if_pos hp]
      exact visitFields_cons_of_eq hp hv hrest
    · obtain ⟨s₁, hrest⟩ := ih hrest s
      refine ⟨s₁, ?_⟩
      rw [mapFields_cons, if_neg hp]
      exact visitFields_cons_of_not_holds hp hrest

/-- A step replaces what it leads to if going on replaces there. -/
theorem replaces_transformStep {hands : Value → List Value} {Good : Value → Prop}
    (h : ∀ v, (∀ w ∈ hands v, Good w) → Replaces visit f v) (head : String) (v : Value)
    (hv : ∀ w ∈ addressedStep head hands v, Good w) :
    Replaces (transformStep head visit) (removeStep head (some f)) v := by
  intro s
  induction v using induct generalizing s with
  | string text => exact ⟨s, by rw [transformStep, removeStep]⟩
  | hash fields =>
    rw [addressedStep, flatMap_matching, List.forall_mem_flatMap] at hv
    have hfields : ∀ field ∈ fields, (FieldPattern.ofString head).holds field.1 = true →
        Replaces visit f field.2 := by
      intro field hfield hp
      have hgood := hv field hfield
      rw [if_pos hp] at hgood
      exact h field.2 hgood
    obtain ⟨s', hvisit⟩ := visitFields_of_replaces hfields s
    exact ⟨s', by simp only [transformStep, removeStep, hvisit, Edited.map]⟩
  | array items ih =>
    cases hstep : Path.Step.ofSegment head with
    | append => exact ⟨s, by simp only [transformStep, removeStep, hstep]⟩
    | all =>
      simp only [addressedStep, hstep, List.forall_mem_flatMap] at hv
      obtain ⟨s', hvisit⟩ := visitItems_of_replaces (fun w hw => h w (hv w hw)) s
      exact ⟨s', by simp only [transformStep, removeStep, hstep, hvisit, Edited.map]⟩
    | position p =>
      cases hi : p.index? items.length with
      | none => exact ⟨s, by simp only [transformStep, removeStep, hstep, hi]⟩
      | some i =>
        have hlt : i < items.length := Path.Position.index?_lt hi
        have hitem : items[i]? = some items[i] := List.getElem?_eq_getElem hlt
        simp only [addressedStep, hstep, hi, Option.bind_some, hitem, Option.toList_some,
          List.flatMap_singleton] at hv
        have hset : items.modify i f = items.set i (f items[i]) := by
          rw [List.modify_eq_set_getElem?, hitem]
          rfl
        obtain ⟨s', hvisit⟩ := h items[i] hv s
        refine ⟨s', ?_⟩
        simp only [transformStep, removeStep, hstep, hi, visitItem_eq_set hitem hvisit, Edited.map,
          hset]
    | field =>
      simp only [addressedStep, hstep, addressedStepItems_eq_flatMap,
        List.forall_mem_flatMap] at hv
      have hitems : ∀ w ∈ items,
          Replaces (transformStep head visit) (removeStep head (some f)) w :=
        fun w hw s => ih w hw (hv w hw) s
      obtain ⟨s', hvisit⟩ := visitItems_of_replaces hitems s
      refine ⟨s', ?_⟩
      simp only [transformStep, removeStep, hstep, transformStepItems_eq_visitItems, hvisit,
        removeStepItems_eq_map, Edited.map]

end Visit

/-- An editor that puts something in the place of all that a path leads to replaces that. -/
theorem replaces_transform {editor : Editor σ} {f : Value → Value} (p : Path) (v : Value)
    (h : ∀ w ∈ addressed p v, ∀ s, (editor w s).1 = .ok (some (f w))) :
    Replaces (transform editor p) (replaceAlong f p) v := by
  induction p generalizing v with
  | nil =>
    intro s
    refine ⟨(editor v s).2, ?_⟩
    rw [transform, applyEditor, ← Prod.eta (editor v s), h v (List.mem_singleton_self v) s]
    rfl
  | cons head tail ih => exact replaces_transformStep ih head v h

/-! ## Strings that are lost by replacing -/

section Step

variable {f : Value → Value} {hands : Value → List Value} {lost : Value → List String}
  (h : ∀ v, Parts v.leaves (f v).leaves ((hands v).flatMap lost))

include h

theorem parts_mapFields (p : FieldPattern) (fields : Hash) :
    Parts (leavesOfFields fields) (leavesOfFields (mapFields p f fields))
      ((((fields.filter fun field => p.holds field.1).map (·.2)).flatMap hands).flatMap lost) := by
  induction fields with
  | nil => exact Parts.refl []
  | cons field rest ih =>
    by_cases hp : p.holds field.1 = true
    · simp only [List.filter_cons, hp, if_true, List.map_cons, List.flatMap_cons,
        List.flatMap_append, mapFields, leavesOfFields]
      exact (h field.2).append ih
    · simp only [List.filter_cons, hp, mapFields, List.map_cons, leavesOfFields]
      exact ih.append_left field.2.leaves

theorem parts_modify (i : Nat) (items : List Value) :
    Parts (leavesOfItems items) (leavesOfItems (items.modify i f))
      ((items[i]?.toList.flatMap hands).flatMap lost) := by
  induction items generalizing i with
  | nil => simpa [leavesOfItems] using Parts.refl []
  | cons v rest ih =>
    cases i with
    | zero =>
      have hrest := (h v).append (Parts.refl (leavesOfItems rest))
      simpa [leavesOfItems] using hrest
    | succ i =>
      have hrest := (ih i).append_left v.leaves
      simpa [leavesOfItems] using hrest

theorem parts_removeStep (head : String) (v : Value) :
    Parts v.leaves (removeStep head (some f) v).leaves
      ((addressedStep head hands v).flatMap lost) := by
  induction v using induct with
  | string s => exact Parts.refl [s]
  | hash fields =>
    simp only [removeStep, addressedStep, leaves]
    exact parts_mapFields h (.ofString head) fields
  | array items ih =>
    cases hstep : Path.Step.ofSegment head with
    | append =>
      simp only [removeStep, addressedStep, hstep]
      exact Parts.refl _
    | all =>
      simp only [removeStep, addressedStep, hstep, leaves, leavesOfItems_eq_flatMap,
        List.flatMap_map, List.flatMap_assoc]
      exact Parts.flatMap fun v _ => h v
    | position p =>
      cases hi : p.index? items.length with
      | none =>
        simp only [removeStep, addressedStep, hstep, hi]
        exact Parts.refl _
      | some i =>
        simp only [removeStep, addressedStep, hstep, hi, leaves]
        exact parts_modify h i items
    | field =>
      simp only [removeStep, addressedStep, hstep, leaves, leavesOfItems_eq_flatMap,
        removeStepItems_eq_map, addressedStepItems_eq_flatMap, List.flatMap_map, List.flatMap_assoc]
      exact Parts.flatMap ih

end Step

/-- The strings of a value are those that are left when what a path leads to is replaced, and those
that are lost in the replaced values. -/
theorem parts_replaceAlong {f : Value → Value} {lost : Value → List String}
    (h : ∀ v, Parts v.leaves (f v).leaves (lost v)) (p : Path) (v : Value) :
    Parts v.leaves (replaceAlong f p v).leaves ((addressed p v).flatMap lost) := by
  induction p generalizing v with
  | nil =>
    rw [replaceAlong, addressed, List.flatMap_singleton]
    exact h v
  | cons head tail ih => exact parts_removeStep ih head v

end Value

/-! ## Editing by a function -/

namespace Hash

open Value

/-- An edit that puts something in the place of all that a path leads to goes through. -/
theorem transform_eq_replaceAlong (h : Hash) {p : Path} (hp : p ≠ [])
    {f : Value → Except FixError Value} {g : Value → Value}
    (hf : ∀ v ∈ addressed p (.hash h), f v = .ok (g v)) :
    ∃ fields : Hash, h.transform p (fun v => (f v).map some) = ⟨fields, none⟩ ∧
      replaceAlong g p (.hash h) = .hash fields := by
  let editor : Editor Unit := fun v s => ((f v).map some, s)
  have hputs : ∀ v ∈ addressed p (.hash h), ∀ s, (editor v s).1 = .ok (some (g v)) := by
    intro v hv s
    simp only [editor, hf v hv]
    rfl
  obtain ⟨s', hedit⟩ := replaces_transform p (.hash h) hputs ()
  obtain ⟨head, tail, rfl⟩ := List.exists_cons_of_ne_nil hp
  refine ⟨mapFields (.ofString head) (replaceAlong g tail) h, ?_, rfl⟩
  rw [transform, transformWith, hedit]
  rfl

/-- An edit fails just if the function fails for a value that the path leads to, and then as it does
for one of them. -/
theorem error_transform (h : Hash) (p : Path) (f : Value → Except FixError (Option Value)) :
    ((h.transform p f).error = none ↔ ∀ v ∈ addressed p (.hash h), ∃ r, f v = .ok r) ∧
      ∀ e, (h.transform p f).error = some e → ∃ v ∈ addressed p (.hash h), f v = .error e := by
  let editor : Editor Unit := fun v s => (f v, s)
  have hfeed : (h.transform p f).error = (editor.feed (addressed p (.hash h)) ()).error := by
    rw [← state_transformWith]
    rfl
  have herror : ∀ e, (h.transform p f).error = some e →
      ∃ v ∈ addressed p (.hash h), f v = .error e := by
    intro e he
    obtain ⟨v, hv, _, hfailed⟩ := Editor.exists_error_of_feed (hfeed.symm.trans he)
    exact ⟨v, hv, hfailed⟩
  refine ⟨⟨fun hnone v hv => ?_, fun hok => ?_⟩, herror⟩
  · obtain ⟨_, r, hr⟩ := Editor.exists_ok_of_feed (hfeed.symm.trans hnone) v hv
    exact ⟨r, hr⟩
  · cases he : (h.transform p f).error with
    | none => rfl
    | some e =>
      obtain ⟨v, hv, hfailed⟩ := herror e he
      obtain ⟨r, hr⟩ := hok v hv
      cases hfailed.symm.trans hr

end Hash

namespace State

open Value

variable (s : State) (path : String) {f : Value → Except FixError Value}

theorem replace_eq_replaceAlong {g : Value → Value}
    (hf : ∀ v ∈ addressed (Path.ofString path) (.hash s.record.fields), f v = .ok (g v)) :
    ∃ fields : Hash,
      s.replace path f = ⟨{ s with record := { s.record with fields } }, none⟩ ∧
        replaceAlong g (Path.ofString path) (.hash s.record.fields) = .hash fields := by
  obtain ⟨fields, htransform, hreplaced⟩ :=
    s.record.fields.transform_eq_replaceAlong (Path.ofString_ne_nil path) hf
  refine ⟨fields, ?_, hreplaced⟩
  rw [replace, transform, editFields, editRecord, Record.edit, htransform]
  rfl

theorem error_replace (f : Value → Except FixError Value) :
    ((s.replace path f).error = none ↔
        ∀ v ∈ addressed (Path.ofString path) (.hash s.record.fields), ∃ w, f v = .ok w) ∧
      ∀ e, (s.replace path f).error = some e →
        ∃ v ∈ addressed (Path.ofString path) (.hash s.record.fields), f v = .error e := by
  obtain ⟨hnone, hsome⟩ :=
    s.record.fields.error_transform (Path.ofString path) fun v => (f v).map some
  have herror : (s.replace path f).error =
      (s.record.fields.transform (Path.ofString path) fun v => (f v).map some).error := rfl
  rw [herror, hnone]
  refine ⟨forall₂_congr fun v _ => ?_, fun e he => ?_⟩
  · cases f v <;> simp [Except.map]
  · obtain ⟨v, hv, hfailed⟩ := hsome e he
    refine ⟨v, hv, ?_⟩
    cases hf : f v with
    | ok w =>
      rw [hf] at hfailed
      cases hfailed
    | error e' =>
      rw [hf] at hfailed
      cases hfailed
      rfl

/-- The error of a call is the one for the first of the values that cannot be replaced. -/
theorem error_replace_of_first {before after : List Value} {v : Value} {e : FixError}
    (hplaces : addressed (Path.ofString path) (.hash s.record.fields) = before ++ v :: after)
    (hbefore : ∀ w ∈ before, ∃ u, f w = .ok u) (hv : f v = .error e) :
    (s.replace path f).error = some e := by
  let editor : Editor Unit := fun w t => ((f w).map some, t)
  have hfeed : (s.replace path f).error =
      (editor.feed (addressed (Path.ofString path) (.hash s.record.fields)) ()).error := by
    rw [← Hash.state_transformWith]
    rfl
  rw [hfeed, hplaces]
  clear hplaces hfeed
  induction before with
  | nil =>
    have hfails : editor v () = (.error e, ()) := by
      show ((f v).map some, ()) = _
      rw [hv]
      rfl
    rw [List.nil_append, Editor.feed_cons_of_error hfails]
  | cons w rest ih =>
    obtain ⟨⟨u, hu⟩, hrest⟩ := List.forall_mem_cons.mp hbefore
    have hputs : editor w () = (.ok (some u), ()) := by
      show ((f w).map some, ()) = _
      rw [hu]
      rfl
    rw [List.cons_append, Editor.feed_cons_of_ok hputs]
    exact ih hrest

end State

end RecordFix
