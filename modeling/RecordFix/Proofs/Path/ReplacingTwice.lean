import RecordFix.Proofs.Path.Editing
import RecordFix.Proofs.Path.Replacing

/-!
# Replacing what has been put in

A path leads to the values that were put along it, in the same order as to what they replaced
(`Value.addressed_replaceAlong`). So what is put in a second time depends on the first values alone
(`Value.replaceAlong_replaceAlong`), and if it is the same as the first values, everything is as it
was (`Value.replaceAlong_of_fixed`). A call that undoes what another one did to each value undoes
the whole call (`State.replace_replace_of_inverse`).
-/

namespace RecordFix

namespace Value

/-! ## Where the values are found again -/

theorem addressedStep_removeStep {f next : Value → Value} {hands : Value → List Value}
    (h : ∀ v, hands (next v) = (hands v).map f) (head : String) (v : Value) :
    addressedStep head hands (removeStep head (some next) v) =
      (addressedStep head hands v).map f := by
  induction v using induct with
  | string text => rw [removeStep, addressedStep, List.map_nil]
  | hash fields =>
    simp only [removeStep, addressedStep]
    rw [flatMap_matching, flatMap_matching, mapFields, List.flatMap_map, List.map_flatMap]
    refine List.flatMap_congr fun field _ => ?_
    by_cases hp : (FieldPattern.ofString head).holds field.1 = true
    · simp only [hp, if_true, h]
    · simp only [hp, if_false, Bool.false_eq_true, List.map_nil]
  | array items ih =>
    cases hstep : Path.Step.ofSegment head with
    | append => simp only [removeStep, addressedStep, hstep, List.map_nil]
    | all => simp only [removeStep, addressedStep, hstep, List.flatMap_map, List.map_flatMap, h]
    | position p =>
      cases hi : p.index? items.length with
      | none => simp only [removeStep, addressedStep, hstep, hi, Option.bind_none,
          Option.toList_none, List.flatMap_nil, List.map_nil]
      | some i =>
        have hitem : i < items.length := Path.Position.index?_lt hi
        simp only [removeStep, addressedStep, hstep, List.length_modify, hi, Option.bind_some,
          List.getElem?_modify_eq, List.getElem?_eq_getElem hitem, Option.map_eq_map,
          Option.map_some, Option.toList_some, List.flatMap_singleton, h]
    | field =>
      simp only [removeStep, addressedStep, hstep, removeStepItems_eq_map,
        addressedStepItems_eq_flatMap, List.flatMap_map, List.map_flatMap]
      exact List.flatMap_congr ih

/-- A path leads to what was put in the places that it led to before. -/
theorem addressed_replaceAlong (f : Value → Value) (p : Path) (v : Value) :
    addressed p (replaceAlong f p v) = (addressed p v).map f := by
  induction p generalizing v with
  | nil => rfl
  | cons head tail ih => exact addressedStep_removeStep ih head v

/-! ## Putting in twice -/

/-- The edit that puts in what a function gives is `replaceAlong`. -/
theorem transform_replacing (f : Value → Value) (p : Path) (v : Value) :
    transform (.replacing fun w (s : Unit) => (f w, s)) p v () =
      ⟨(some (replaceAlong f p v), ()), none⟩ := by
  let editor : Editor Unit := .replacing fun w s => (f w, s)
  have hputs : ∀ w ∈ addressed p v, ∀ s, (editor w s).1 = .ok (some (f w)) := fun _ _ _ => rfl
  obtain ⟨⟨⟩, hvisit⟩ := replaces_transform p v hputs ()
  exact hvisit

theorem replaceAlong_replaceAlong (f g : Value → Value) (p : Path) (v : Value) :
    replaceAlong g p (replaceAlong f p v) = replaceAlong (fun w => g (f w)) p v := by
  have hleaf : InTurn some (fun (_ _ : Unit) => ()) (applyEditor (.replacing fun w s => (f w, s)))
      (applyEditor (.replacing fun w s => (g w, s)))
      (applyEditor (.replacing fun w s => (g (f w), s))) :=
    fun w s t => ⟨f w, s, g (f w), t, rfl, rfl, rfl⟩
  obtain ⟨w, _, u, _, hfirst, hsecond, hboth⟩ := inTurn_transform hleaf p v () ()
  simp only [transform_replacing, Edited.mk.injEq, Prod.mk.injEq, Option.some.injEq] at hfirst hboth
  rw [transform_replacing, ← hfirst.1.1] at hsecond
  simp only [Edited.mk.injEq, Prod.mk.injEq, Option.some.injEq] at hsecond
  exact hsecond.1.1.trans hboth.1.1.symm

theorem replaceAlong_id (p : Path) (v : Value) : replaceAlong id p v = v := by
  induction p generalizing v with
  | nil => rfl
  | cons head tail ih =>
    have htail : replaceAlong id tail = id := funext ih
    rw [replaceAlong, htail, removeStep_id]

/-- What is put in matters for the values that the path leads to only. -/
theorem replaceAlong_congr {f g : Value → Value} {p : Path} {v : Value}
    (h : ∀ w ∈ addressed p v, f w = g w) : replaceAlong f p v = replaceAlong g p v := by
  let editor : Editor Unit := .replacing fun w s => (f w, s)
  have hputs : ∀ w ∈ addressed p v, ∀ s, (editor w s).1 = .ok (some (g w)) := by
    intro w hw s
    show Except.ok (some (f w)) = .ok (some (g w))
    rw [h w hw]
  obtain ⟨_, hvisit⟩ := replaces_transform p v hputs ()
  have hboth := (transform_replacing f p v).symm.trans hvisit
  exact Option.some.inj (Prod.mk.inj (Edited.mk.inj hboth).1).1

/-- Putting in what is there already changes nothing. -/
theorem replaceAlong_of_fixed {f : Value → Value} {p : Path} {v : Value}
    (h : ∀ w ∈ addressed p v, f w = w) : replaceAlong f p v = v :=
  (replaceAlong_congr h).trans (replaceAlong_id p v)

/-! ## Values in a tree of distinct names -/

theorem distinct_of_mem_addressedStep {hands : Value → List Value}
    (h : ∀ v, v.Distinct → ∀ w ∈ hands v, w.Distinct) (head : String) (v : Value)
    (hv : v.Distinct) : ∀ w ∈ addressedStep head hands v, w.Distinct := by
  induction v using induct with
  | string text => simp [addressedStep]
  | hash fields =>
    have hfields := (distinct_hash.mp hv).2
    rw [addressedStep, List.forall_mem_flatMap, Hash.matching, List.forall_mem_map]
    exact fun field hfield => h field.2 (hfields field (List.mem_filter.mp hfield).1)
  | array items ih =>
    have hitems := distinct_array.mp hv
    cases hstep : Path.Step.ofSegment head with
    | append => simp [addressedStep, hstep]
    | all =>
      simp only [addressedStep, hstep, List.forall_mem_flatMap]
      exact fun w hw => h w (hitems w hw)
    | position p =>
      simp only [addressedStep, hstep, List.forall_mem_flatMap, Option.mem_toList,
        Option.bind_eq_some_iff]
      rintro w ⟨i, -, hw⟩
      exact h w (hitems w (List.mem_of_getElem? hw))
    | field =>
      simp only [addressedStep, hstep, addressedStepItems_eq_flatMap, List.forall_mem_flatMap]
      exact fun w hw => ih w hw (hitems w hw)

theorem distinct_of_mem_addressed {p : Path} {v w : Value} (hv : v.Distinct)
    (hw : w ∈ addressed p v) : w.Distinct := by
  induction p generalizing v w with
  | nil =>
    obtain rfl := List.mem_singleton.mp hw
    exact hv
  | cons head tail ih =>
    exact distinct_of_mem_addressedStep (fun _ hu _ => ih hu) head v hv w hw

end Value

namespace State

open Value

variable {f back : Value → Except FixError Value} {g h : Value → Value}

/-- What is replaced and then replaced back is as it was. -/
theorem replace_replace_of_inverse (s : State) (path : String)
    (hto : ∀ v ∈ addressed (Path.ofString path) (.hash s.record.fields), f v = .ok (g v))
    (hback : ∀ v ∈ addressed (Path.ofString path) (.hash s.record.fields),
      back (g v) = .ok (h (g v)) ∧ h (g v) = v) :
    (s.replace path f).value.replace path back = ⟨s, none⟩ := by
  obtain ⟨between, hfirst, hbetween⟩ := s.replace_eq_replaceAlong path hto
  let t : State := { s with record := { s.record with fields := between } }
  have hagain : ∀ w ∈ addressed (Path.ofString path) (.hash t.record.fields),
      back w = .ok (h w) := by
    intro w hw
    rw [← hbetween, addressed_replaceAlong] at hw
    obtain ⟨v, hv, rfl⟩ := List.mem_map.mp hw
    exact (hback v hv).1
  obtain ⟨fields, hsecond, hfields⟩ := t.replace_eq_replaceAlong path hagain
  have hsame : fields = s.record.fields := by
    rw [← hbetween, replaceAlong_replaceAlong,
      replaceAlong_of_fixed fun v hv => (hback v hv).2] at hfields
    exact (Value.hash.inj hfields).symm
  rw [hfirst, hsecond, hsame]

end State

end RecordFix
