import Mathlib.Data.List.ReduceOption
import RecordFix.Proofs.Path.Addressed
import RecordFix.Proofs.Path.Editing

/-!
# Editing the items of an array

An edit along a path that ends in `*` at an array gives each item to its editor once, in order, and
leaves what was kept or replaced in order, without what was removed. If the editor fails on an item,
that item and those behind it stay as they are (`Hash.transformWith_items`). Going through the array
by an index that stays in place where an item is removed comes to the same (`Editor.sweep`).
-/

namespace RecordFix

variable {σ : Type}

namespace Editor

/-- The editor is given the values one after the other, once each, and succeeds with the results. -/
inductive Answers (f : Editor σ) : List Value → σ → List (Option Value) → σ → Prop
  | nil (s : σ) : f.Answers [] s [] s
  | cons {v : Value} {r : Option Value} {rest : List Value} {results : List (Option Value)}
      {s s' t : σ} (hv : f v s = (.ok r, s')) (hrest : f.Answers rest s' results t) :
      f.Answers (v :: rest) s (r :: results) t

/-- How an editor goes through items: to their end, or up to one on which it fails. What it gave for
the items before is in front, without what was removed; the others are as they were. -/
inductive GoesThrough (f : Editor σ) (items : List Value) (s : σ) :
    List Value → σ → Option FixError → Prop
  | done {results : List (Option Value)} {t : σ} (hanswers : f.Answers items s results t) :
      f.GoesThrough items s results.reduceOption t none
  | failed {before rest : List Value} {v : Value} {results : List (Option Value)} {s' t : σ}
      {e : FixError} (hitems : items = before ++ v :: rest)
      (hanswers : f.Answers before s results s') (hv : f v s' = (.error e, t)) :
      f.GoesThrough items s (results.reduceOption ++ v :: rest) t (some e)

/-- Goes through the items from an index on, in place: a removed item makes room for the next one,
so the index moves on only past an item that is kept or replaced. -/
def sweep (f : Editor σ) (i : Nat) (items : List Value) (s : σ) : Edited (List Value × σ) :=
  if h : i < items.length then
    match f items[i] s with
    | (.error e, t) => ⟨(items, t), some e⟩
    | (.ok (some w), t) => f.sweep (i + 1) (items.set i w) t
    | (.ok none, t) => f.sweep i (items.eraseIdx i) t
  else ⟨(items, s), none⟩
termination_by items.length - i
decreasing_by
  · rw [List.length_set]
    omega
  · rw [List.length_eraseIdx_of_lt h]
    omega

end Editor

namespace Value

/-! ## The items of one array -/

theorem goesThrough_visitItems (f : Editor σ) (items : List Value) (s : σ) :
    ∃ kept t err, f.GoesThrough items s kept t err ∧
      visitItems (applyEditor f) items s = ⟨(kept, t), err⟩ := by
  induction items generalizing s with
  | nil => exact ⟨[], s, none, .done (.nil s), rfl⟩
  | cons v rest ih =>
    rcases hv : f v s with ⟨e | r, s₁⟩
    · refine ⟨v :: rest, s₁, some e, .failed (List.nil_append _).symm (.nil s) hv, ?_⟩
      simp [visitItems, applyEditor, hv]
    · obtain ⟨kept, t, err, hthrough, hvisits⟩ := ih s₁
      have hresults (results : List (Option Value)) :
          (r :: results).reduceOption = r.toList ++ results.reduceOption := by
        cases r <;> rfl
      refine ⟨r.toList ++ kept, t, err, ?_, ?_⟩
      · cases hthrough with
        | done hanswers =>
          rw [← hresults]
          exact .done (.cons hv hanswers)
        | failed hitems hanswers hw =>
          rw [← List.append_assoc, ← hresults]
          exact .failed (congrArg (v :: ·) hitems) (.cons hv hanswers) hw
      · simp [visitItems, applyEditor, hv, hvisits, Edited.map]

end Value

/-- What is in front of the index stays, and the rest is visited item by item. -/
theorem Editor.sweep_append (f : Editor σ) (done rest : List Value) (s : σ) :
    f.sweep done.length (done ++ rest) s =
      (Value.visitItems (Value.applyEditor f) rest s).map fun r => (done ++ r.1, r.2) := by
  induction rest generalizing done s with
  | nil =>
    rw [sweep, dif_neg (by simp)]
    simp [Value.visitItems, Edited.map]
  | cons v rest ih =>
    have hlt : done.length < (done ++ v :: rest).length := by simp
    have hitem : (done ++ v :: rest)[done.length] = v := by simp
    rw [sweep, dif_pos hlt, hitem]
    rcases hv : f v s with ⟨e | w | w, t⟩
    · simp [Value.visitItems, Value.applyEditor, hv, Edited.map]
    · have herase : (done ++ v :: rest).eraseIdx done.length = done ++ rest := by
        simp [List.eraseIdx_append_of_length_le]
      simp only [herase, ih]
      simp [Value.visitItems, Value.applyEditor, hv, Edited.map]
    · have hset : (done ++ v :: rest).set done.length w = (done ++ [w]) ++ rest := by
        simp
      have hlength : done.length + 1 = (done ++ [w]).length := by simp
      simp only [hset, hlength, ih]
      simp [Value.visitItems, Value.applyEditor, hv, Edited.map]

/-! ## One array among the values of a record -/

theorem exists_of_flatMap_eq_singleton {α β : Type} {f : α → List β} {xs : List α} {u : β}
    (h : xs.flatMap f = [u]) :
    ∃ before x after, xs = before ++ x :: after ∧ f x = [u] ∧ (∀ y ∈ before, f y = []) ∧
      ∀ y ∈ after, f y = [] := by
  rw [List.flatMap_def, List.flatten_eq_singleton_iff] at h
  obtain ⟨front, back, hmap, hfront, hback⟩ := h
  obtain ⟨before, others, rfl, rfl, hothers⟩ := List.map_eq_append_iff.mp hmap
  obtain ⟨x, after, rfl, hx, rfl⟩ := List.map_eq_cons_iff.mp hothers
  exact ⟨before, x, after, rfl, hx, fun y hy => hfront _ (List.mem_map_of_mem hy),
    fun y hy => hback _ (List.mem_map_of_mem hy)⟩

theorem flatMap_of_only {α β : Type} {f : α → List β} {before after : List α} {x : α} {u : β}
    (hbefore : ∀ y ∈ before, f y = []) (hafter : ∀ y ∈ after, f y = []) (hx : f x = [u]) :
    (before ++ x :: after).flatMap f = [u] := by
  rw [List.flatMap_append, List.flatMap_cons, List.flatMap_eq_nil_iff.mpr hbefore,
    List.flatMap_eq_nil_iff.mpr hafter, hx]
  rfl

namespace Value

/-- Visits what a path leads to. -/
def visitAlong (visit : Value → σ → Edited (Option Value × σ)) :
    Path → Value → σ → Edited (Option Value × σ)
  | [] => visit
  | head :: tail => transformStep head (visitAlong visit tail)

theorem transform_append (f : Editor σ) (p q : Path) :
    transform f (p ++ q) = visitAlong (transform f q) p := by
  induction p with
  | nil => rfl
  | cons head tail ih => rw [List.cons_append, transform, visitAlong, ih]

theorem addressedStepItems_eq_flatMap (head : String) (hands : Value → List Value)
    (items : List Value) :
    addressedStepItems head hands items = items.flatMap (addressedStep head hands) := by
  induction items with
  | nil => rw [addressedStepItems]; rfl
  | cons v rest ih => rw [addressedStepItems, List.flatMap_cons, ih]

theorem transformStepItems_eq_visitItems (head : String)
    (visit : Value → σ → Edited (Option Value × σ)) (items : List Value) (s : σ) :
    transformStepItems head visit items s = visitItems (transformStep head visit) items s := by
  induction items generalizing s with
  | nil => rw [transformStepItems]; rfl
  | cons v rest ih => simp only [transformStepItems, visitItems, ih]

theorem flatMap_matching (fields : Hash) (pattern : String) (hands : Value → List Value) :
    ((fields.matching pattern).map (·.2)).flatMap hands =
      fields.flatMap fun field =>
        if (FieldPattern.ofString pattern).holds field.1 then hands field.2 else [] := by
  unfold Hash.matching
  induction fields with
  | nil => rfl
  | cons field rest ih =>
    by_cases hp : (FieldPattern.ofString pattern).holds field.1 <;>
      simp_all [List.flatMap_cons]

variable {visit : Value → σ → Edited (Option Value × σ)}

/-- The visit does nothing at the value. -/
def Idle (visit : Value → σ → Edited (Option Value × σ)) (v : Value) : Prop :=
  ∀ s, visit v s = ⟨(some v, s), none⟩

theorem visitItems_of_idle {items : List Value} (h : ∀ v ∈ items, Idle visit v) (s : σ) :
    visitItems visit items s = ⟨(items, s), none⟩ := by
  induction items with
  | nil => rfl
  | cons v rest ih =>
    rw [List.forall_mem_cons] at h
    exact visitItems_cons_of_eq (h.1 s) (ih h.2)

theorem visitFields_of_idle {p : FieldPattern} {fields : Hash}
    (h : ∀ field ∈ fields, p.holds field.1 = true → Idle visit field.2) (s : σ) :
    visitFields p visit fields s = ⟨(fields, s), none⟩ := by
  induction fields with
  | nil => rfl
  | cons field rest ih =>
    obtain ⟨name, v⟩ := field
    rw [List.forall_mem_cons] at h
    by_cases hp : p.holds name = true
    · exact visitFields_cons_of_eq hp (h.1 hp s) (ih h.2)
    · exact visitFields_cons_of_not_holds hp (ih h.2)

/-- Where a segment leads to nothing, nothing is visited. -/
theorem transformStep_of_idle {hands : Value → List Value}
    (h : ∀ v, hands v = [] → Idle visit v) (head : String) (v : Value)
    (hv : addressedStep head hands v = []) : Idle (transformStep head visit) v := by
  intro s
  match v with
  | .string text => rw [transformStep]
  | .hash fields =>
    rw [addressedStep, flatMap_matching, List.flatMap_eq_nil_iff] at hv
    rw [transformStep, visitFields_of_idle fun field hfield hp => h field.2 ?_]
    · rfl
    · have hnone := hv field hfield
      rwa [if_pos hp] at hnone
  | .array items =>
    cases hstep : Path.Step.ofSegment head with
    | append => simp only [transformStep, hstep]
    | all =>
      simp only [addressedStep, hstep, List.flatMap_eq_nil_iff] at hv
      simp only [transformStep, hstep, visitItems_of_idle fun w hw => h w (hv w hw), Edited.map]
    | position p =>
      simp only [transformStep, hstep]
      cases hi : p.index? items.length with
      | none => rfl
      | some i =>
        have hlt : i < items.length := Path.Position.index?_lt hi
        simp only [addressedStep, hstep, hi, Option.bind_some, List.getElem?_eq_getElem hlt,
          Option.toList_some, List.flatMap_singleton] at hv
        dsimp only
        rw [visitItem_eq_set (List.getElem?_eq_getElem hlt) (h items[i] hv s),
          List.set_getElem_self]
        rfl
    | field =>
      simp only [addressedStep, hstep, addressedStepItems_eq_flatMap, List.flatMap_eq_nil_iff] at hv
      simp only [transformStep, hstep, transformStepItems_eq_visitItems,
        visitItems_of_idle fun w hw => transformStep_of_idle h head w (hv w hw), Edited.map]
termination_by v

theorem idle_visitAlong {p : Path} {v : Value} (hv : addressed p v = []) :
    Idle (visitAlong visit p) v := by
  induction p generalizing v with
  | nil => cases hv
  | cons head tail ih => exact transformStep_of_idle (fun w hw => ih hw) head v hv

/-! A value that is the only one to be visited may be changed or stop the visits. -/

theorem visitItems_of_only {before after : List Value} {v w : Value} {s s' : σ}
    {err : Option FixError} (hbefore : ∀ v ∈ before, Idle visit v)
    (hafter : ∀ v ∈ after, Idle visit v) (hv : visit v s = ⟨(some w, s'), err⟩) :
    visitItems visit (before ++ v :: after) s = ⟨(before ++ w :: after, s'), err⟩ := by
  induction before with
  | nil =>
    cases err with
    | none => exact visitItems_cons_of_eq hv (visitItems_of_idle hafter s')
    | some e => simp [visitItems, hv]
  | cons b rest ih =>
    rw [List.forall_mem_cons] at hbefore
    rw [List.cons_append, visitItems, hbefore.1 s]
    simp only [ih hbefore.2, Edited.map]
    rfl

theorem visitFields_of_only {p : FieldPattern} {before after : Hash} {name : String}
    (hp : p.holds name = true) {v w : Value} {s s' : σ} {err : Option FixError}
    (hbefore : ∀ field ∈ before, p.holds field.1 = true → Idle visit field.2)
    (hafter : ∀ field ∈ after, p.holds field.1 = true → Idle visit field.2)
    (hv : visit v s = ⟨(some w, s'), err⟩) :
    visitFields p visit (before ++ (name, v) :: after) s =
      ⟨(before ++ (name, w) :: after, s'), err⟩ := by
  induction before with
  | nil =>
    cases err with
    | none => exact visitFields_cons_of_eq hp hv (visitFields_of_idle hafter s')
    | some e => simp [visitFields, hp, hv]
  | cons field rest ih =>
    obtain ⟨other, x⟩ := field
    rw [List.forall_mem_cons] at hbefore
    by_cases hother : p.holds other = true
    · rw [List.cons_append, visitFields, if_pos hother, hbefore.1 hother s]
      simp only [ih hbefore.2, Edited.map]
      rfl
    · rw [List.cons_append, visitFields, if_neg hother, ih hbefore.2]
      rfl

/-- The path leads to `u` alone: what a visit to `u` gives, `place` puts there, and the path then
leads to that alone. -/
structure LeadsOnlyTo (p : Path) (u v : Value) (place : Value → Value) : Prop where
  visits : ∀ {ω : Type} {visit : Value → ω → Edited (Option Value × ω)} {w : Value} {s s' : ω}
    {err : Option FixError}, visit u s = ⟨(some w, s'), err⟩ →
      visitAlong visit p v s = ⟨(some (place w), s'), err⟩
  addressed_place : ∀ w, addressed p (place w) = [w]

theorem exists_leadsOnlyTo_cons {head : String} {tail : Path} {u : Value}
    (htail : ∀ x, addressed tail x = [u] → ∃ place, LeadsOnlyTo tail u x place) (v : Value)
    (hv : addressed (head :: tail) v = [u]) : ∃ place, LeadsOnlyTo (head :: tail) u v place := by
  match v with
  | .string text => rw [addressed, addressedStep] at hv; cases hv
  | .hash fields =>
    rw [addressed, addressedStep, flatMap_matching] at hv
    obtain ⟨before, ⟨name, x⟩, after, rfl, hx, hbefore, hafter⟩ := exists_of_flatMap_eq_singleton hv
    by_cases hp : (FieldPattern.ofString head).holds name = true
    · rw [if_pos hp] at hx
      obtain ⟨place, hplace⟩ := htail x hx
      have hidle {ω : Type} {visit : Value → ω → Edited (Option Value × ω)} {others : Hash}
          (hnone : ∀ field ∈ others, (if (FieldPattern.ofString head).holds field.1 = true then
            addressed tail field.2 else []) = []) :
          ∀ field ∈ others, (FieldPattern.ofString head).holds field.1 = true →
            Idle (visitAlong visit tail) field.2 := by
        intro field hfield hother
        have hleads := hnone field hfield
        rw [if_pos hother] at hleads
        exact idle_visitAlong hleads
      refine ⟨fun w => .hash (before ++ (name, place w) :: after), fun hvisit => ?_, fun w => ?_⟩
      · rw [visitAlong, transformStep, visitFields_of_only hp
          (hidle hbefore) (hidle hafter) (hplace.visits hvisit)]
        rfl
      · rw [addressed, addressedStep, flatMap_matching]
        refine flatMap_of_only hbefore hafter ?_
        rw [if_pos hp]
        exact hplace.addressed_place w
    · rw [if_neg hp] at hx
      cases hx
  | .array items =>
    cases hstep : Path.Step.ofSegment head with
    | append => simp only [addressed, addressedStep, hstep] at hv; cases hv
    | all =>
      simp only [addressed, addressedStep, hstep] at hv
      obtain ⟨before, x, after, rfl, hx, hbefore, hafter⟩ := exists_of_flatMap_eq_singleton hv
      obtain ⟨place, hplace⟩ := htail x hx
      refine ⟨fun w => .array (before ++ place w :: after), fun hvisit => ?_, fun w => ?_⟩
      · have hitems := visitItems_of_only (fun y hy => idle_visitAlong (hbefore y hy))
          (fun y hy => idle_visitAlong (hafter y hy)) (hplace.visits hvisit)
        simp only [visitAlong, transformStep, hstep, hitems, Edited.map]
      · simp only [addressed, addressedStep, hstep]
        exact flatMap_of_only hbefore hafter (hplace.addressed_place w)
    | position p =>
      simp only [addressed, addressedStep, hstep] at hv
      cases hi : p.index? items.length with
      | none => rw [hi] at hv; cases hv
      | some i =>
        have hlt : i < items.length := Path.Position.index?_lt hi
        simp only [hi, Option.bind_some, List.getElem?_eq_getElem hlt, Option.toList_some,
          List.flatMap_singleton] at hv
        obtain ⟨place, hplace⟩ := htail items[i] hv
        refine ⟨fun w => .array (items.set i (place w)), fun hvisit => ?_, fun w => ?_⟩
        · have hitem := visitItem_eq_set (List.getElem?_eq_getElem hlt) (hplace.visits hvisit)
          simp only [visitAlong, transformStep, hstep, hi, hitem, Edited.map]
        · simp only [addressed, addressedStep, hstep, List.length_set, hi, Option.bind_some,
            List.getElem?_set_self hlt, Option.toList_some, List.flatMap_singleton]
          exact hplace.addressed_place w
    | field =>
      simp only [addressed, addressedStep, hstep, addressedStepItems_eq_flatMap] at hv
      obtain ⟨before, x, after, hitems, hx, hbefore, hafter⟩ := exists_of_flatMap_eq_singleton hv
      have hmem : x ∈ items := by simp [hitems]
      obtain ⟨place, hplace⟩ := exists_leadsOnlyTo_cons htail x hx
      subst hitems
      refine ⟨fun w => .array (before ++ place w :: after), fun hvisit => ?_, fun w => ?_⟩
      · have hitems := visitItems_of_only
          (fun y hy => idle_visitAlong (p := head :: tail) (hbefore y hy))
          (fun y hy => idle_visitAlong (p := head :: tail) (hafter y hy)) (hplace.visits hvisit)
        rw [visitAlong] at hitems
        simp only [visitAlong, transformStep, hstep, transformStepItems_eq_visitItems, hitems,
          Edited.map]
      · simp only [addressed, addressedStep, hstep, addressedStepItems_eq_flatMap]
        exact flatMap_of_only hbefore hafter (hplace.addressed_place w)
termination_by v

theorem exists_leadsOnlyTo {p : Path} {u v : Value} (hv : addressed p v = [u]) :
    ∃ place, LeadsOnlyTo p u v place := by
  induction p generalizing v with
  | nil =>
    cases hv
    exact ⟨id, fun hvisit => hvisit, fun _ => rfl⟩
  | cons head tail ih => exact exists_leadsOnlyTo_cons (fun x hx => ih hx) v hv

end Value

namespace Hash

/-- The hash with a value in the place of each value that the path leads to. -/
def fill (h : Hash) (p : Path) (w : Value) : Hash := (h.transform p fun _ => .ok (some w)).value

/-- Visits along a path that leads to one value alone do what one visit to the value does, and the
path then leads to what is put there. -/
theorem transformWith_append_of_only {h : Hash} {head : String} {tail q : Path} {u w : Value}
    (hu : Value.addressed (head :: tail) (.hash h) = [u]) {f : Editor σ} {s t : σ}
    {err : Option FixError} (hq : Value.transform f q u s = ⟨(some w, t), err⟩) :
    h.transformWith (head :: tail ++ q) f s = ⟨(h.fill (head :: tail) w, t), err⟩ ∧
      Value.addressed (head :: tail) (.hash (h.fill (head :: tail) w)) = [w] := by
  obtain ⟨place, hplace⟩ := Value.exists_leadsOnlyTo hu
  have hedit : Value.transform f (head :: tail ++ q) (.hash h) s = ⟨(some (place w), t), err⟩ := by
    rw [Value.transform_append]
    exact hplace.visits hq
  have hput : Value.transform (fun _ (t : Unit) => (.ok (some w), t)) (head :: tail) (.hash h) () =
      ⟨(some (place w), ()), none⟩ := by
    rw [← List.append_nil (head :: tail), Value.transform_append]
    exact hplace.visits rfl
  -- an edit behind a segment makes a hash of a hash
  obtain ⟨fields, hfields⟩ : ∃ fields, place w = .hash fields := by
    have hvalue := congrArg (fun e => e.value.1) hput
    rw [Value.transform, Value.transformStep] at hvalue
    exact ⟨_, (Option.some.inj hvalue).symm⟩
  have hfill : h.fill (head :: tail) w = fields := by
    rw [fill, transform, transformWith, hput, hfields]
    rfl
  refine ⟨?_, ?_⟩
  · rw [transformWith, hedit, hfill, hfields]
    rfl
  · rw [hfill, ← hfields]
    exact hplace.addressed_place w

/-- An edit along a path that ends in `*` at an array goes through the items: each is given to the
editor once, in order, and the array is then made of what was kept or replaced, unless the editor
fails, which leaves that item and those behind it as they are. Going through the items by an index,
in place, comes to the same. -/
theorem transformWith_items {h : Hash} {p : Path} {items : List Value}
    (harray : Value.addressed p (.hash h) = [.array items]) (f : Editor σ) (s : σ) :
    ∃ kept t err, f.GoesThrough items s kept t err ∧
      h.transformWith (p ++ ["*"]) f s = ⟨(h.fill p (.array kept), t), err⟩ ∧
      Value.addressed p (.hash (h.fill p (.array kept))) = [.array kept] ∧
      f.sweep 0 items s = ⟨(kept, t), err⟩ := by
  obtain ⟨kept, t, err, hthrough, hvisits⟩ := Value.goesThrough_visitItems f items s
  have hsweep : f.sweep 0 items s = Value.visitItems (Value.applyEditor f) items s :=
    f.sweep_append [] items s
  have hitems : Value.transform f ["*"] (.array items) s = ⟨(some (.array kept), t), err⟩ := by
    have hstep : Path.Step.ofSegment "*" = .all := by decide
    simp only [Value.transform, Value.transformStep, hstep, hvisits, Edited.map]
  cases p with
  | nil => cases harray
  | cons head tail =>
    obtain ⟨hedited, hplaced⟩ := transformWith_append_of_only harray hitems
    exact ⟨kept, t, err, hthrough, hedited, hplaced, hsweep.trans hvisits⟩

/-- A record with an array of titles in the second of its works. -/
def titlesSample : Hash :=
  [("id", .string "1"),
    ("works", .array [.string "none", .hash [("titles", .array
      [.string "a", .string "bb", .string "c", .hash [], .string "d"])]])]

/-- Marks strings of one character, removes other strings and counts the strings; fails on what is
no string. -/
def markShort : Editor Nat
  | .string text, n => (.ok (if text.length = 1 then some (.string (text ++ "!")) else none), n + 1)
  | v, n => (.error (.typeMismatch .string v.kind), n)

theorem transformWith_items_titlesSample :
    let p : Path := ["w*", "titles"]
    let items : List Value := [.string "a", .string "bb", .string "c", .hash [], .string "d"]
    let kept : List Value := [.string "a!", .string "c!", .hash [], .string "d"]
    let err : FixError := .typeMismatch .string .hash
    Value.addressed p (.hash titlesSample) = [.array items] ∧
      markShort.GoesThrough items 0 kept 3 (some err) ∧
      titlesSample.transformWith (p ++ ["*"]) markShort 0 =
        ⟨(titlesSample.fill p (.array kept), 3), some err⟩ := by
  intro p items kept err
  have harray : Value.addressed p (.hash titlesSample) = [.array items] := by decide +kernel
  obtain ⟨kept', t, err', hthrough, hedited, hplaced, -⟩ :=
    transformWith_items harray markShort 0
  let edited := titlesSample.transformWith (p ++ ["*"]) markShort 0
  have hkept : Value.addressed p (.hash edited.value.1) = [.array kept] := by decide +kernel
  have hcount : edited.value.2 = 3 := by decide +kernel
  have herror : edited.error = some err := by decide +kernel
  simp only [edited, hedited, hplaced] at hkept hcount herror
  cases hkept
  cases hcount
  cases herror
  exact ⟨harray, hthrough, hedited⟩

end Hash

end RecordFix
