import RecordFix.Record

/-!
# What an edit along a path is applied to

`Value.addressed` lists the values that a path leads an edit to, in order. An edit along a path is
the same as handing these values to the editor one after the other until it fails
(`Hash.state_transformWith`): whatever the editor puts in their places, no value is left out and
none comes twice.
-/

namespace RecordFix

variable {σ : Type}

/-- Hands values to an editor one after the other until it fails. -/
def Editor.feed (f : Editor σ) : List Value → σ → Edited σ
  | [], s => ⟨s, none⟩
  | v :: rest, s => ((Value.applyEditor f v s).map (·.2)).andThen (Editor.feed f rest)

/-- The editor that also notes the values it is given. -/
def Editor.recording (f : Editor σ) : Editor (σ × List Value) :=
  fun v s => ((f v s.1).1, ((f v s.1).2, s.2 ++ [v]))

namespace Value

mutual

/-- Takes the first segment of a path, and goes on in what it leads to. -/
def addressedStep (head : String) (next : Value → List Value) : Value → List Value
  | .string _ => []
  | .hash fields => ((Hash.matching fields head).map (·.2)).flatMap next
  | .array items =>
    match Path.Step.ofSegment head with
    | .append => []
    | .all => items.flatMap next
    | .position p => ((p.index? items.length).bind (items[·]?)).toList.flatMap next
    | .field => addressedStepItems head next items

/-- Takes the first segment of a path in each of the items. -/
def addressedStepItems (head : String) (next : Value → List Value) : List Value → List Value
  | [] => []
  | v :: rest => addressedStep head next v ++ addressedStepItems head next rest

end

/-- The values that a path leads an edit to, in order. -/
def addressed : Path → Value → List Value
  | [], v => [v]
  | head :: tail, v => addressedStep head (addressed tail) v

end Value

/-! ## Feeding an editor -/

namespace Editor

variable (f : Editor σ)

theorem feed_singleton (v : Value) (s : σ) :
    f.feed [v] s = (Value.applyEditor f v s).map (·.2) := by
  rw [feed]
  generalize (Value.applyEditor f v s).map (·.2) = e
  cases h : e.error with
  | none => rw [Edited.andThen_of_none h, feed, ← h]
  | some err => rw [Edited.andThen_of_some h]

theorem feed_append (xs ys : List Value) (s : σ) :
    f.feed (xs ++ ys) s = (f.feed xs s).andThen (f.feed ys) := by
  induction xs generalizing s with
  | nil => rfl
  | cons v rest ih =>
    rw [List.cons_append, feed, feed, Edited.andThen_assoc]
    congr 1
    exact funext ih

/-- A recording editor does what the editor does, and notes all values up to a failure. -/
theorem feed_recording (vs : List Value) (s : σ) (seen : List Value) :
    ∃ noted, noted <+: vs ∧ ((f.feed vs s).error = none → noted = vs) ∧
      f.recording.feed vs (s, seen) = (f.feed vs s).map fun s' => (s', seen ++ noted) := by
  induction vs generalizing s seen with
  | nil => exact ⟨[], List.prefix_rfl, fun _ => rfl, by simp [feed, Edited.map]⟩
  | cons v rest ih =>
    rcases hv : f v s with ⟨_ | r, s'⟩
    · refine ⟨[v], by simp, ?_, ?_⟩ <;>
        simp [feed, Value.applyEditor, recording, hv, Edited.map, Edited.andThen]
    · obtain ⟨noted, hpre, hall, heq⟩ := ih s' (seen ++ [v])
      have hfeed : f.feed (v :: rest) s = f.feed rest s' := by
        simp [feed, Value.applyEditor, hv, Edited.map, Edited.andThen]
      have hrec : f.recording.feed (v :: rest) (s, seen) =
          f.recording.feed rest (s', seen ++ [v]) := by
        simp [feed, Value.applyEditor, recording, hv, Edited.map, Edited.andThen]
      refine ⟨v :: noted, List.cons_prefix_cons.mpr ⟨rfl, hpre⟩, fun h => ?_, ?_⟩
      · rw [hall (hfeed ▸ h)]
      · rw [hfeed, hrec, heq]
        simp [Edited.map]

end Editor

/-! ## An edit along a path feeds the editor -/

namespace Value

/-- Visits that go on unless the first one fails hand on the state of the first one. -/
theorem state_goOn {α β : Type} (first : Edited (α × σ)) (kept rest : List β)
    (next : σ → Edited (List β × σ)) :
    (match first.error with
      | some e => ⟨(kept ++ rest, first.value.2), some e⟩
      | none => (next first.value.2).map fun r => (kept ++ r.1, r.2) : Edited (List β × σ)).map
        (·.2) = (first.map (·.2)).andThen fun s => (next s).map (·.2) := by
  have hmap : (first.map (·.2)).error = first.error := rfl
  cases h : first.error with
  | none => rw [Edited.andThen_of_none (hmap.trans h)]; rfl
  | some e =>
    rw [Edited.andThen_of_some (hmap.trans h)]
    exact congrArg (Edited.mk first.value.2) h.symm

variable {f : Editor σ} {visit : Value → σ → Edited (Option Value × σ)}
  {hands : Value → List Value} (hvisit : ∀ v s, (visit v s).map (·.2) = f.feed (hands v) s)

include hvisit

theorem state_visitItems (items : List Value) (s : σ) :
    (visitItems visit items s).map (·.2) = f.feed (items.flatMap hands) s := by
  induction items generalizing s with
  | nil => rfl
  | cons v rest ih =>
    rw [List.flatMap_cons, Editor.feed_append, ← hvisit, ← funext ih]
    exact state_goOn (visit v s) _ rest (visitItems visit rest)

theorem state_visitFields (p : FieldPattern) (fields : Hash) (s : σ) :
    (visitFields p visit fields s).map (·.2) =
      f.feed (((fields.filter fun field => p.holds field.1).map (·.2)).flatMap hands) s := by
  induction fields generalizing s with
  | nil => rfl
  | cons field rest ih =>
    obtain ⟨name, v⟩ := field
    by_cases hp : p.holds name
    · rw [List.filter_cons_of_pos (by simpa using hp), List.map_cons, List.flatMap_cons,
        Editor.feed_append, ← hvisit, ← funext ih]
      simp only [visitFields, hp, if_true]
      exact state_goOn (visit v s) _ rest (visitFields p visit rest)
    · rw [List.filter_cons_of_neg (by simpa using hp), ← ih]
      simp only [visitFields, hp]
      rfl

theorem state_visitItem (i : Nat) (items : List Value) (s : σ) :
    (visitItem visit i items s).map (·.2) = f.feed (items[i]?.toList.flatMap hands) s := by
  rw [visitItem]
  cases items[i]? with
  | none => rfl
  | some v => simpa [Edited.map_map] using hvisit v s

omit hvisit

mutual

theorem state_transformStep
    (hvisit : ∀ v s, (visit v s).map (·.2) = f.feed (hands v) s) (head : String) (v : Value)
    (s : σ) : (transformStep head visit v s).map (·.2) = f.feed (addressedStep head hands v) s := by
  match v with
  | .string _ => simp only [transformStep, addressedStep]; rfl
  | .hash fields =>
    simp only [transformStep, addressedStep]
    exact state_visitFields hvisit _ fields s
  | .array items =>
    cases hstep : Path.Step.ofSegment head with
    | append => simp only [transformStep, addressedStep, hstep]; rfl
    | all =>
      simp only [transformStep, addressedStep, hstep]
      exact state_visitItems hvisit items s
    | position p =>
      simp only [transformStep, addressedStep, hstep]
      cases p.index? items.length with
      | none => rfl
      | some i => exact state_visitItem hvisit i items s
    | field =>
      simp only [transformStep, addressedStep, hstep]
      exact state_transformStepItems hvisit head items s

theorem state_transformStepItems
    (hvisit : ∀ v s, (visit v s).map (·.2) = f.feed (hands v) s) (head : String)
    (items : List Value) (s : σ) :
    (transformStepItems head visit items s).map (·.2) =
      f.feed (addressedStepItems head hands items) s := by
  match items with
  | [] => simp only [transformStepItems, addressedStepItems]; rfl
  | v :: rest =>
    rw [addressedStepItems, Editor.feed_append, ← state_transformStep hvisit head v s,
      ← funext (state_transformStepItems hvisit head rest)]
    simp only [transformStepItems]
    exact state_goOn (transformStep head visit v s) _ rest (transformStepItems head visit rest)

end

/-- An edit along a path hands the addressed values to the editor in order. -/
theorem state_transform (f : Editor σ) (p : Path) (v : Value) (s : σ) :
    (transform f p v s).map (·.2) = f.feed (addressed p v) s := by
  induction p generalizing v s with
  | nil => exact (f.feed_singleton v s).symm
  | cons head tail ih => exact state_transformStep ih head v s

end Value

theorem Hash.state_transformWith (h : Hash) (p : Path) (f : Editor σ) (s : σ) :
    (h.transformWith p f s).map (·.2) = f.feed (Value.addressed p (.hash h)) s := by
  rw [← Value.state_transform, Hash.transformWith, Edited.map_map]
  simp only [Edited.map]
  congr 1
  split <;> simp_all

end RecordFix
