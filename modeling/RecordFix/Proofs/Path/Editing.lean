import Mathlib.Data.List.Basic
import RecordFix.Proofs.Path.Lens

/-!
# Editing with an editor that never fails

An edit along a path with an editor that never fails succeeds. If the editor puts something in the
place of each value, the places that the path leads to are the same afterwards, since each of them
lies in containers which the edit keeps. So two such edits one after the other are one edit with
both editors, and the edit that puts each value in its own place changes nothing
(`Hash.transform_id_comp`). An edit that removes everything it comes to is the removal along the
path (`Hash.transform_eq_removePath`).
-/

namespace RecordFix

variable {σ τ ρ : Type}

namespace Value

/-! ## Visits that do not depend on the state -/

/-- The visit succeeds with the result for the value, whatever the state. -/
def Steady (visit : Value → σ → Edited (Option Value × σ)) (result : Value → Option Value) : Prop :=
  ∀ v s, ∃ s', visit v s = ⟨(result v, s'), none⟩

/-- What a visit makes of a field, if the pattern names it. -/
def fieldResult (p : FieldPattern) (result : Value → Option Value) (field : String × Value) :
    Option (String × Value) :=
  if p.holds field.1 then (result field.2).map (field.1, ·) else some field

variable {visit : Value → σ → Edited (Option Value × σ)} {result : Value → Option Value}

theorem visitItems_of_steady (h : Steady visit result) (items : List Value) (s : σ) :
    ∃ s', visitItems visit items s = ⟨(items.filterMap result, s'), none⟩ := by
  induction items generalizing s with
  | nil => exact ⟨s, rfl⟩
  | cons v rest ih =>
    obtain ⟨s₁, hv⟩ := h v s
    obtain ⟨s₂, hrest⟩ := ih s₁
    refine ⟨s₂, ?_⟩
    simp only [visitItems, hv, hrest, Edited.map, List.filterMap_cons]
    cases result v <;> rfl

theorem visitFields_of_steady (h : Steady visit result) (p : FieldPattern) (fields : Hash) (s : σ) :
    ∃ s', visitFields p visit fields s = ⟨(fields.filterMap (fieldResult p result), s'), none⟩ := by
  induction fields generalizing s with
  | nil => exact ⟨s, rfl⟩
  | cons field rest ih =>
    obtain ⟨name, v⟩ := field
    by_cases hp : p.holds name
    · obtain ⟨s₁, hv⟩ := h v s
      obtain ⟨s₂, hrest⟩ := ih s₁
      refine ⟨s₂, ?_⟩
      simp only [visitFields, hp, if_true, hv, hrest, Edited.map, List.filterMap_cons, fieldResult]
      cases result v <;> rfl
    · obtain ⟨s₁, hrest⟩ := ih s
      refine ⟨s₁, ?_⟩
      simp only [visitFields, hp, hrest, Edited.map, List.filterMap_cons, fieldResult]
      rfl

theorem visitItem_of_steady (h : Steady visit result) {i : Nat} {items : List Value}
    (hi : i < items.length) (s : σ) :
    ∃ s', visitItem visit i items s =
      ⟨(items.take i ++ (result items[i]).toList ++ items.drop (i + 1), s'), none⟩ := by
  obtain ⟨s', hv⟩ := h items[i] s
  exact ⟨s', by simp only [visitItem, List.getElem?_eq_getElem hi, hv, Edited.map]⟩

/-! ## Removing -/

/-- What is put in the place of a value by going on along the rest of a path; nothing at its end. -/
def removal (next : Option (Value → Value)) (v : Value) : Option Value := next.map fun f => f v

theorem filterMap_removal_none (items : List Value) : items.filterMap (removal none) = [] := by
  rw [List.filterMap_eq_nil_iff]
  exact fun _ _ => rfl

theorem filterMap_removal_some (f : Value → Value) (items : List Value) :
    items.filterMap (removal (some f)) = items.map f :=
  congrFun List.filterMap_eq_map items

theorem filterMap_fieldResult_none (pattern : String) (fields : Hash) :
    fields.filterMap (fieldResult (.ofString pattern) (removal none)) = fields.remove pattern := by
  rw [Hash.remove, ← List.filterMap_eq_filter]
  refine List.filterMap_congr fun field _ => ?_
  unfold fieldResult removal
  by_cases hp : (FieldPattern.ofString pattern).holds field.1 <;> simp [hp, Option.guard]

theorem filterMap_fieldResult_some (p : FieldPattern) (f : Value → Value) (fields : Hash) :
    fields.filterMap (fieldResult p (removal (some f))) = mapFields p f fields := by
  rw [mapFields, ← List.filterMap_eq_map]
  refine List.filterMap_congr fun field _ => ?_
  unfold fieldResult removal
  by_cases hp : p.holds field.1 <;> simp [hp]

mutual

theorem transformStep_of_removal {next : Option (Value → Value)} (h : Steady visit (removal next))
    (head : String) (v : Value) (s : σ) :
    ∃ s', transformStep head visit v s = ⟨(some (removeStep head next v), s'), none⟩ := by
  match v with
  | .string text => exact ⟨s, by rw [transformStep, removeStep]⟩
  | .hash fields =>
    obtain ⟨s', hfields⟩ := visitFields_of_steady h (.ofString head) fields s
    refine ⟨s', ?_⟩
    rw [transformStep, hfields, Edited.map]
    cases next with
    | none => simp only [removeStep, filterMap_fieldResult_none]
    | some f => simp only [removeStep, filterMap_fieldResult_some]
  | .array items =>
    cases hstep : Path.Step.ofSegment head with
    | append => exact ⟨s, by simp only [transformStep, removeStep, hstep]⟩
    | all =>
      obtain ⟨s', hitems⟩ := visitItems_of_steady h items s
      refine ⟨s', ?_⟩
      simp only [transformStep, hstep, hitems, Edited.map]
      cases next with
      | none => simp only [removeStep, hstep, filterMap_removal_none]
      | some f => simp only [removeStep, hstep, filterMap_removal_some]
    | position p =>
      cases hi : p.index? items.length with
      | none => exact ⟨s, by simp only [transformStep, removeStep, hstep, hi]⟩
      | some i =>
        have hlt : i < items.length := Path.Position.index?_lt hi
        obtain ⟨s', hitem⟩ := visitItem_of_steady h hlt s
        refine ⟨s', ?_⟩
        simp only [transformStep, hstep, hi, hitem, Edited.map]
        cases next with
        | none => simp [removeStep, hstep, hi, removal, List.eraseIdx_eq_take_drop_succ]
        | some f => simp [removeStep, hstep, hi, removal, List.modify_eq_take_cons_drop hlt]
    | field =>
      obtain ⟨s', hitems⟩ := transformStepItems_of_removal h head items s
      exact ⟨s', by simp only [transformStep, removeStep, hstep, hitems, Edited.map]⟩

theorem transformStepItems_of_removal {next : Option (Value → Value)}
    (h : Steady visit (removal next)) (head : String) (items : List Value) (s : σ) :
    ∃ s', transformStepItems head visit items s =
      ⟨(removeStepItems head next items, s'), none⟩ := by
  match items with
  | [] => exact ⟨s, by rw [transformStepItems, removeStepItems]⟩
  | v :: rest =>
    obtain ⟨s₁, hv⟩ := transformStep_of_removal h head v s
    obtain ⟨s₂, hrest⟩ := transformStepItems_of_removal h head rest s₁
    refine ⟨s₂, ?_⟩
    simp only [transformStepItems, removeStepItems, hv, hrest, Edited.map]
    rfl

end

/-- An editor that removes all it is given does along a path what removing does. -/
theorem steady_transform_of_removing {f : Editor σ} (hf : ∀ v s, (f v s).1 = .ok none)
    (head : String) (tail : Path) :
    Steady (transform f (head :: tail)) fun v => some (remove (head :: tail) v) := by
  induction tail generalizing head with
  | nil =>
    have hleaf : Steady (transform f []) (removal none) := by
      intro v s
      refine ⟨(f v s).2, ?_⟩
      rw [transform, applyEditor, ← Prod.eta (f v s), hf v s]
      rfl
    exact fun v s => transformStep_of_removal hleaf head v s
  | cons next tail ih =>
    have hrest : Steady (transform f (next :: tail)) (removal (some (remove (next :: tail)))) :=
      ih next
    exact fun v s => transformStep_of_removal hrest head v s

/-! ## Putting each value in its own place -/

theorem mapFields_id (p : FieldPattern) (fields : Hash) : mapFields p id fields = fields := by
  have hfield (field : String × Value) :
      (field.1, if p.holds field.1 = true then id field.2 else field.2) = field := by
    split <;> rfl
  exact (List.map_congr_left fun field _ => hfield field).trans (List.map_id fields)

mutual

theorem removeStep_id (head : String) (v : Value) : removeStep head (some id) v = v := by
  match v with
  | .string text => rw [removeStep]
  | .hash fields => rw [removeStep, mapFields_id]
  | .array items =>
    cases hstep : Path.Step.ofSegment head with
    | append => simp only [removeStep, hstep]
    | all => simp only [removeStep, hstep, List.map_id]
    | position p =>
      cases hi : p.index? items.length with
      | none => simp only [removeStep, hstep, hi]
      | some i => simp only [removeStep, hstep, hi, List.modify_id]
    | field => simp only [removeStep, hstep, removeStepItems_id head items]

theorem removeStepItems_id (head : String) (items : List Value) :
    removeStepItems head (some id) items = items := by
  match items with
  | [] => rw [removeStepItems]
  | v :: rest => rw [removeStepItems, removeStep_id head v, removeStepItems_id head rest]

end

/-- A visit that leaves every value in its place is a removal along a path that removes nothing. -/
theorem transformStep_of_same (h : Steady visit some) (head : String) :
    Steady (transformStep head visit) some := by
  have hsame : Steady visit (removal (some id)) := h
  intro v s
  obtain ⟨s', hstep⟩ := transformStep_of_removal hsame head v s
  rw [removeStep_id] at hstep
  exact ⟨s', hstep⟩

/-! ## One edit after another -/

/-- With `both` is done at once what `first` and then `second` do, each with a state of its own: all
three succeed, and the results are put in by `put`. -/
def InTurn {α β : Type} (put : α → β) (join : σ → τ → ρ) (first : α → σ → Edited (β × σ))
    (second : α → τ → Edited (β × τ)) (both : α → ρ → Edited (β × ρ)) : Prop :=
  ∀ a s t, ∃ b s' c t', first a s = ⟨(put b, s'), none⟩ ∧ second b t = ⟨(put c, t'), none⟩ ∧
    both a (join s t) = ⟨(put c, join s' t'), none⟩

variable {join : σ → τ → ρ} {first : Value → σ → Edited (Option Value × σ)}
  {second : Value → τ → Edited (Option Value × τ)} {both : Value → ρ → Edited (Option Value × ρ)}

section Replaced

variable {s s₁ s₂ : σ} {v w : Value}

theorem visitItems_cons_of_eq {rest ws : List Value} (hv : visit v s = ⟨(some w, s₁), none⟩)
    (hrest : visitItems visit rest s₁ = ⟨(ws, s₂), none⟩) :
    visitItems visit (v :: rest) s = ⟨(w :: ws, s₂), none⟩ := by
  simp only [visitItems, hv, hrest, Edited.map]
  rfl

theorem visitFields_cons_of_eq {p : FieldPattern} {name : String} (hp : p.holds name = true)
    {rest ws : Hash} (hv : visit v s = ⟨(some w, s₁), none⟩)
    (hrest : visitFields p visit rest s₁ = ⟨(ws, s₂), none⟩) :
    visitFields p visit ((name, v) :: rest) s = ⟨((name, w) :: ws, s₂), none⟩ := by
  simp only [visitFields, hp, if_true, hv, hrest, Edited.map]
  rfl

theorem visitFields_cons_of_not_holds {p : FieldPattern} {name : String}
    (hp : ¬ p.holds name = true) {rest ws : Hash}
    (hrest : visitFields p visit rest s = ⟨(ws, s₁), none⟩) :
    visitFields p visit ((name, v) :: rest) s = ⟨((name, v) :: ws, s₁), none⟩ := by
  simp only [visitFields, hp, hrest, Edited.map]
  rfl

theorem transformStepItems_cons_of_eq {head : String} {rest ws : List Value}
    (hv : transformStep head visit v s = ⟨(some w, s₁), none⟩)
    (hrest : transformStepItems head visit rest s₁ = ⟨(ws, s₂), none⟩) :
    transformStepItems head visit (v :: rest) s = ⟨(w :: ws, s₂), none⟩ := by
  simp only [transformStepItems, hv, hrest, Edited.map]
  rfl

theorem visitItem_eq_set {i : Nat} {items : List Value} {err : Option FixError}
    (hitem : items[i]? = some v) (hv : visit v s = ⟨(some w, s₁), err⟩) :
    visitItem visit i items s = ⟨(items.set i w, s₁), err⟩ := by
  have hlt : i < items.length := (List.getElem?_eq_some_iff.mp hitem).1
  simp only [visitItem, hitem, hv, Edited.map]
  rw [List.set_eq_take_append_cons_drop, if_pos hlt]
  simp

end Replaced

theorem inTurn_visitItems (h : InTurn some join first second both) :
    InTurn id join (visitItems first) (visitItems second) (visitItems both) := by
  intro items
  induction items with
  | nil => exact fun s t => ⟨[], s, [], t, rfl, rfl, rfl⟩
  | cons v rest ih =>
    intro s t
    obtain ⟨w, s₁, u, t₁, hfirst, hsecond, hboth⟩ := h v s t
    obtain ⟨ws, s₂, us, t₂, hfirsts, hseconds, hboths⟩ := ih s₁ t₁
    exact ⟨w :: ws, s₂, u :: us, t₂, visitItems_cons_of_eq hfirst hfirsts,
      visitItems_cons_of_eq hsecond hseconds, visitItems_cons_of_eq hboth hboths⟩

/-- The fields keep their names, so the pattern names the same ones in the second turn. -/
theorem inTurn_visitFields (h : InTurn some join first second both) (p : FieldPattern) :
    InTurn id join (visitFields p first) (visitFields p second) (visitFields p both) := by
  intro fields
  induction fields with
  | nil => exact fun s t => ⟨[], s, [], t, rfl, rfl, rfl⟩
  | cons field rest ih =>
    obtain ⟨name, v⟩ := field
    intro s t
    by_cases hp : p.holds name = true
    · obtain ⟨w, s₁, u, t₁, hfirst, hsecond, hboth⟩ := h v s t
      obtain ⟨ws, s₂, us, t₂, hfirsts, hseconds, hboths⟩ := ih s₁ t₁
      exact ⟨(name, w) :: ws, s₂, (name, u) :: us, t₂, visitFields_cons_of_eq hp hfirst hfirsts,
        visitFields_cons_of_eq hp hsecond hseconds, visitFields_cons_of_eq hp hboth hboths⟩
    · obtain ⟨ws, s₁, us, t₁, hfirsts, hseconds, hboths⟩ := ih s t
      exact ⟨(name, v) :: ws, s₁, (name, v) :: us, t₁, visitFields_cons_of_not_holds hp hfirsts,
        visitFields_cons_of_not_holds hp hseconds, visitFields_cons_of_not_holds hp hboths⟩

theorem inTurn_visitItem (h : InTurn some join first second both) {i : Nat} {items : List Value}
    (hi : i < items.length) (s : σ) (t : τ) :
    ∃ w s' u t', visitItem first i items s = ⟨(items.set i w, s'), none⟩ ∧
      visitItem second i (items.set i w) t = ⟨(items.set i u, t'), none⟩ ∧
      visitItem both i items (join s t) = ⟨(items.set i u, join s' t'), none⟩ := by
  obtain ⟨w, s', u, t', hfirst, hsecond, hboth⟩ := h items[i] s t
  have hset : (items.set i w)[i]? = some w := List.getElem?_set_self hi
  refine ⟨w, s', u, t', visitItem_eq_set (List.getElem?_eq_getElem hi) hfirst, ?_,
    visitItem_eq_set (List.getElem?_eq_getElem hi) hboth⟩
  rw [visitItem_eq_set hset hsecond, List.set_set]

mutual

theorem inTurn_transformStep (h : InTurn some join first second both) (head : String) (v : Value)
    (s : σ) (t : τ) :
    ∃ w s' u t', transformStep head first v s = ⟨(some w, s'), none⟩ ∧
      transformStep head second w t = ⟨(some u, t'), none⟩ ∧
      transformStep head both v (join s t) = ⟨(some u, join s' t'), none⟩ := by
  match v with
  | .string text =>
    exact ⟨.string text, s, .string text, t, by rw [transformStep], by rw [transformStep],
      by rw [transformStep]⟩
  | .hash fields =>
    obtain ⟨ws, s', us, t', hfirst, hsecond, hboth⟩ :=
      inTurn_visitFields h (.ofString head) fields s t
    refine ⟨.hash ws, s', .hash us, t', ?_, ?_, ?_⟩
    · rw [transformStep, hfirst]; rfl
    · rw [transformStep, hsecond]; rfl
    · rw [transformStep, hboth]; rfl
  | .array items =>
    cases hstep : Path.Step.ofSegment head with
    | append =>
      refine ⟨.array items, s, .array items, t, ?_, ?_, ?_⟩ <;> simp only [transformStep, hstep]
    | all =>
      obtain ⟨ws, s', us, t', hfirst, hsecond, hboth⟩ := inTurn_visitItems h items s t
      refine ⟨.array ws, s', .array us, t', ?_, ?_, ?_⟩
      · simp only [transformStep, hstep, hfirst, Edited.map, id]
      · simp only [transformStep, hstep, hsecond, Edited.map, id]
      · simp only [transformStep, hstep, hboth, Edited.map, id]
    | position p =>
      cases hi : p.index? items.length with
      | none =>
        refine ⟨.array items, s, .array items, t, ?_, ?_, ?_⟩ <;>
          simp only [transformStep, hstep, hi]
      | some i =>
        -- an item is put in the place of another, so the position has the same index again
        obtain ⟨w, s', u, t', hfirst, hsecond, hboth⟩ :=
          inTurn_visitItem h (Path.Position.index?_lt hi) s t
        refine ⟨.array (items.set i w), s', .array (items.set i u), t', ?_, ?_, ?_⟩
        · simp only [transformStep, hstep, hi, hfirst, Edited.map]
        · simp only [transformStep, hstep, List.length_set, hi, hsecond, Edited.map]
        · simp only [transformStep, hstep, hi, hboth, Edited.map]
    | field =>
      obtain ⟨ws, s', us, t', hfirst, hsecond, hboth⟩ := inTurn_transformStepItems h head items s t
      refine ⟨.array ws, s', .array us, t', ?_, ?_, ?_⟩
      · simp only [transformStep, hstep, hfirst, Edited.map]
      · simp only [transformStep, hstep, hsecond, Edited.map]
      · simp only [transformStep, hstep, hboth, Edited.map]

theorem inTurn_transformStepItems (h : InTurn some join first second both) (head : String)
    (items : List Value) (s : σ) (t : τ) :
    ∃ ws s' us t', transformStepItems head first items s = ⟨(ws, s'), none⟩ ∧
      transformStepItems head second ws t = ⟨(us, t'), none⟩ ∧
      transformStepItems head both items (join s t) = ⟨(us, join s' t'), none⟩ := by
  match items with
  | [] =>
    exact ⟨[], s, [], t, by rw [transformStepItems], by rw [transformStepItems],
      by rw [transformStepItems]⟩
  | v :: rest =>
    obtain ⟨w, s₁, u, t₁, hfirst, hsecond, hboth⟩ := inTurn_transformStep h head v s t
    obtain ⟨ws, s₂, us, t₂, hfirsts, hseconds, hboths⟩ :=
      inTurn_transformStepItems h head rest s₁ t₁
    exact ⟨w :: ws, s₂, u :: us, t₂, transformStepItems_cons_of_eq hfirst hfirsts,
      transformStepItems_cons_of_eq hsecond hseconds, transformStepItems_cons_of_eq hboth hboths⟩

end

/-- Editors that are applied in turn to each value are applied in turn along a path. -/
theorem inTurn_transform {f : Editor σ} {g : Editor τ} {k : Editor ρ}
    (h : InTurn some join (applyEditor f) (applyEditor g) (applyEditor k)) (p : Path) :
    InTurn some join (transform f p) (transform g p) (transform k p) := by
  induction p with
  | nil => exact h
  | cons head tail ih => exact inTurn_transformStep ih head

end Value

/-! ## Edits of a hash -/

/-- The editor that puts what a function gives in the place of each value. -/
def Editor.replacing (f : Value → σ → Value × σ) : Editor σ :=
  fun v s => (.ok (some (f v s).1), (f v s).2)

namespace Hash

theorem transformWith_cons (h : Hash) (head : String) (tail : Path) (f : Editor σ) (s : σ) :
    h.transformWith (head :: tail) f s =
      Value.visitFields (.ofString head) (Value.transform f tail) h s := by
  rw [transformWith, Value.transform, Value.transformStep]
  rfl

theorem inTurn_transformWith {f : Editor σ} {g : Editor τ} {k : Editor ρ}
    {join : σ → τ → ρ}
    (hleaf : Value.InTurn some join (Value.applyEditor f) (Value.applyEditor g)
      (Value.applyEditor k))
    (h : Hash) (head : String) (tail : Path) (s : σ) (t : τ) :
    ∃ h₁ s' h₂ t', h.transformWith (head :: tail) f s = ⟨(h₁, s'), none⟩ ∧
      h₁.transformWith (head :: tail) g t = ⟨(h₂, t'), none⟩ ∧
      h.transformWith (head :: tail) k (join s t) = ⟨(h₂, join s' t'), none⟩ := by
  simp only [transformWith_cons]
  exact Value.inTurn_visitFields (Value.inTurn_transform hleaf tail) (.ofString head) h s t

theorem transform_same (h : Hash) (head : String) (tail : Path) :
    h.transform (head :: tail) (fun v => .ok (some v)) = ⟨h, none⟩ := by
  have hleaf : Value.Steady (Value.applyEditor fun v (s : Unit) => (.ok (some v), s)) some :=
    fun v s => ⟨s, rfl⟩
  have hrest (p : Path) :
      Value.Steady (Value.transform (fun v (s : Unit) => (.ok (some v), s)) p) some := by
    induction p with
    | nil => exact hleaf
    | cons next rest ih => exact Value.transformStep_of_same ih next
  obtain ⟨s', hstep⟩ := hrest (head :: tail) (.hash h) ()
  rw [transform, transformWith, hstep]
  rfl

/-- Editing along a path, which has one segment at least, respects the identity and composition: the
edit that puts each value in its own place changes nothing, and two edits that put something in the
place of each value are one edit that applies the second function to what the first one gives.
Functions that keep a state each hand it on from value to value as if the other were not there. -/
theorem transform_id_comp (h : Hash) (head : String) (tail : Path) :
    let p := head :: tail
    h.transform p (fun v => .ok (some v)) = ⟨h, none⟩ ∧
      (∀ f g : Value → Value, ∃ h', h.transform p (fun v => .ok (some (f v))) = ⟨h', none⟩ ∧
        h'.transform p (fun v => .ok (some (g v))) =
          h.transform p fun v => .ok (some (g (f v)))) ∧
      ∀ (f : Value → σ → Value × σ) (g : Value → τ → Value × τ) (s : σ) (t : τ),
        ∃ h₁ s' h₂ t', h.transformWith p (.replacing f) s = ⟨(h₁, s'), none⟩ ∧
          h₁.transformWith p (.replacing g) t = ⟨(h₂, t'), none⟩ ∧
          h.transformWith p
            (.replacing fun v st =>
              let first := f v st.1
              let second := g first.1 st.2
              (second.1, first.2, second.2)) (s, t) = ⟨(h₂, s', t'), none⟩ := by
  intro p
  refine ⟨transform_same h head tail, fun f g => ?_, fun f g s t => ?_⟩
  · have hleaf : Value.InTurn some (fun (_ _ : Unit) => ())
        (Value.applyEditor (.replacing fun v s => (f v, s)))
        (Value.applyEditor (.replacing fun v s => (g v, s)))
        (Value.applyEditor (.replacing fun v s => (g (f v), s))) :=
      fun v s t => ⟨f v, s, g (f v), t, rfl, rfl, rfl⟩
    obtain ⟨h₁, s', h₂, t', hfirst, hsecond, hboth⟩ :=
      inTurn_transformWith hleaf h head tail () ()
    have htransform (fields : Hash) (f : Value → Value) :
        fields.transform p (fun v => .ok (some (f v))) =
          (fields.transformWith p (.replacing fun v s => (f v, s)) ()).map (·.1) := rfl
    refine ⟨h₁, ?_, ?_⟩
    · rw [htransform, hfirst]
      rfl
    · rw [htransform, htransform, hsecond, hboth]
  · have hleaf : Value.InTurn some Prod.mk (Value.applyEditor (.replacing f))
        (Value.applyEditor (.replacing g))
        (Value.applyEditor (.replacing fun v (st : σ × τ) =>
          ((g (f v st.1).1 st.2).1, (f v st.1).2, (g (f v st.1).1 st.2).2))) :=
      fun v s t => ⟨_, _, _, _, rfl, rfl, rfl⟩
    exact inTurn_transformWith hleaf h head tail s t

theorem hash_removePath (h : Hash) (p : Path) :
    Value.remove p (.hash h) = .hash (h.removePath p) := by
  rcases p with - | ⟨head, - | ⟨next, tail⟩⟩ <;> rfl

/-- An edit that removes every value it comes to is the removal along the path, whatever it keeps in
its state. -/
theorem transform_eq_removePath (h : Hash) (p : Path) (step : Value → σ → σ) (s : σ) :
    (∃ s', h.transformWith p (fun v s => (.ok none, step v s)) s = ⟨(h.removePath p, s'), none⟩) ∧
      h.transform p (fun _ => .ok none) = ⟨h.removePath p, none⟩ := by
  have hremoving {ω : Type} (step : Value → ω → ω) (s : ω) :
      ∃ s', h.transformWith p (fun v s => (.ok none, step v s)) s =
        ⟨(h.removePath p, s'), none⟩ := by
    cases p with
    | nil => exact ⟨step (.hash h) s, rfl⟩
    | cons head tail =>
      obtain ⟨s', hstep⟩ := Value.steady_transform_of_removing
        (f := fun v s => (.ok none, step v s)) (fun _ _ => rfl) head tail (.hash h) s
      refine ⟨s', ?_⟩
      rw [transformWith, hstep]
      simp only [hash_removePath, Edited.map]
  refine ⟨hremoving step s, ?_⟩
  obtain ⟨s', hunit⟩ := hremoving (fun _ (u : Unit) => u) ()
  rw [transform, hunit]
  rfl

end Hash

end RecordFix
