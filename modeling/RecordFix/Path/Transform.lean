import RecordFix.Hash
import RecordFix.Path.Basic

/-!
# Editing along a path

An editor is applied to every value that a path leads to, in order. It gives the value to put in its
place, or nothing to remove it, and may keep a state from one value to the next. The first error
ends the edit: what was edited before stays edited, all else is as it was.
-/

namespace RecordFix

/-- What is put in the place of a value, with a state that is handed on. -/
abbrev Editor (σ : Type) := Value → σ → Except FixError (Option Value) × σ

namespace Value

variable {σ : Type}

/-- Applies an editor to a value. -/
def applyEditor (f : Editor σ) (v : Value) (s : σ) : Edited (Option Value × σ) :=
  match f v s with
  | (.ok result, s') => ⟨(result, s'), none⟩
  | (.error e, s') => ⟨(some v, s'), some e⟩

/-- Visits items one after the other until a visit fails. -/
def visitItems (visit : Value → σ → Edited (Option Value × σ)) :
    List Value → σ → Edited (List Value × σ)
  | [], s => ⟨([], s), none⟩
  | v :: rest, s =>
    let first := visit v s
    match first.error with
    | some e => ⟨(first.value.1.toList ++ rest, first.value.2), some e⟩
    | none =>
      (visitItems visit rest first.value.2).map fun r => (first.value.1.toList ++ r.1, r.2)

/-- Visits the fields that a pattern names one after the other until a visit fails. -/
def visitFields (p : FieldPattern) (visit : Value → σ → Edited (Option Value × σ)) :
    Hash → σ → Edited (Hash × σ)
  | [], s => ⟨([], s), none⟩
  | (name, v) :: rest, s =>
    if p.holds name then
      let first := visit v s
      let kept := first.value.1.toList.map (name, ·)
      match first.error with
      | some e => ⟨(kept ++ rest, first.value.2), some e⟩
      | none => (visitFields p visit rest first.value.2).map fun r => (kept ++ r.1, r.2)
    else (visitFields p visit rest s).map fun r => ((name, v) :: r.1, r.2)

/-- Visits the item at an index. -/
def visitItem (visit : Value → σ → Edited (Option Value × σ)) (i : Nat) (items : List Value)
    (s : σ) : Edited (List Value × σ) :=
  match items[i]? with
  | none => ⟨(items, s), none⟩
  | some v =>
    (visit v s).map fun r => (items.take i ++ r.1.toList ++ items.drop (i + 1), r.2)

mutual

/-- Takes the first segment of a path, and visits what it leads to. -/
def transformStep (head : String) (next : Value → σ → Edited (Option Value × σ)) :
    Value → σ → Edited (Option Value × σ)
  | .string t, s => ⟨(some (.string t), s), none⟩
  | .hash fields, s =>
    (visitFields (.ofString head) next fields s).map fun r => (some (.hash r.1), r.2)
  | .array items, s =>
    match Path.Step.ofSegment head with
    | .append => ⟨(some (.array items), s), none⟩
    | .all => (visitItems next items s).map fun r => (some (.array r.1), r.2)
    | .position p =>
      match p.index? items.length with
      | none => ⟨(some (.array items), s), none⟩
      | some i => (visitItem next i items s).map fun r => (some (.array r.1), r.2)
    | .field => (transformStepItems head next items s).map fun r => (some (.array r.1), r.2)

/-- Takes the first segment of a path in one item after the other until a visit fails. -/
def transformStepItems (head : String) (next : Value → σ → Edited (Option Value × σ)) :
    List Value → σ → Edited (List Value × σ)
  | [], s => ⟨([], s), none⟩
  | v :: rest, s =>
    let first := transformStep head next v s
    match first.error with
    | some e => ⟨(first.value.1.toList ++ rest, first.value.2), some e⟩
    | none =>
      (transformStepItems head next rest first.value.2).map fun r =>
        (first.value.1.toList ++ r.1, r.2)

end

/-- Applies an editor to every value that a path leads to. -/
def transform (f : Editor σ) : Path → Value → σ → Edited (Option Value × σ)
  | [] => applyEditor f
  | head :: tail => transformStep head (transform f tail)

end Value

namespace Hash

variable {σ : Type}

/-- Applies an editor with a state to every value that a path leads to. -/
def transformWith (h : Hash) (p : Path) (f : Editor σ) (s : σ) : Edited (Hash × σ) :=
  (Value.transform f p (.hash h) s).map fun
    | (some (.hash fields), s') => (fields, s')
    | (_, s') => (h, s')

/-- Applies a function to every value that a path leads to. -/
def transform (h : Hash) (p : Path) (f : Value → Except FixError (Option Value)) : Edited Hash :=
  (h.transformWith p (fun v s => (f v, s)) ()).map (·.1)

end Hash

end RecordFix
