import RecordFix.Path.Insert

/-!
# Where writing comes to a stop

A write along a path goes from container to container and makes those that are missing.
`Value.walk` lists the places it comes to, in order. The write ends with the error of the first
place that it cannot pass (`Value.error_insert`): a string, or an array that lacks the position
which the next segment means. So it fails for want of a position exactly where it comes to such an
array before any other obstacle (`Hash.write_misses_iff`).
-/

namespace RecordFix

/-- The segment means a position that an array of this length lacks: an end of an array without
items, or a number, written in digits alone and below 2⁶⁴, that none of its items has. -/
def Path.Misses (segment : String) (length : Nat) : Prop :=
  (segment = "$first" ∨ segment = "$last") ∧ length = 0 ∨
    ∃ n ∈ number? segment, n = 0 ∨ length < n

instance (segment : String) (length : Nat) : Decidable (Path.Misses segment length) := by
  unfold Path.Misses
  infer_instance

namespace Path

theorem Position.index?_number_eq_none_iff {n length : Nat} :
    (Position.number n).index? length = none ↔ n = 0 ∨ length < n := by
  cases n with
  | zero => simp [index?]
  | succ n =>
    rw [index?, ite_eq_right_iff]
    simp only [reduceCtorEq, imp_false, false_or]
    omega

theorem ofSegment_eq_position_iff {segment : String} {p : Position} :
    Step.ofSegment segment = .position p ↔
      segment = "$first" ∧ p = .first ∨ segment = "$last" ∧ p = .last ∨
        ∃ n ∈ number? segment, p = .number n := by
  -- what is not written in digits alone is no number
  have happend : number? "$append" = none := by decide +kernel
  have hfirst : number? "$first" = none := by decide +kernel
  have hlast : number? "$last" = none := by decide +kernel
  have hall : number? "*" = none := by decide +kernel
  unfold Step.ofSegment appendSegment
  by_cases h₁ : segment = "$append"
  · simp [h₁, happend]
  by_cases h₂ : segment = "$first"
  · simp [h₂, hfirst, eq_comm]
  by_cases h₃ : segment = "$last"
  · simp [h₃, hlast, eq_comm]
  by_cases h₄ : segment = "*"
  · simp [h₄, hall]
  rw [if_neg h₁, if_neg h₂, if_neg h₃, if_neg h₄]
  cases number? segment with
  | none => simp [h₂, h₃]
  | some n => simp [h₂, h₃, eq_comm]

theorem misses_iff {segment : String} {length : Nat} :
    Misses segment length ↔
      ∃ p, Step.ofSegment segment = .position p ∧ p.index? length = none := by
  simp only [ofSegment_eq_position_iff]
  constructor
  · rintro (⟨hend | hend, rfl⟩ | ⟨n, hn, hout⟩)
    · exact ⟨.first, .inl ⟨hend, rfl⟩, rfl⟩
    · exact ⟨.last, .inr (.inl ⟨hend, rfl⟩), rfl⟩
    · exact ⟨.number n, .inr (.inr ⟨n, hn, rfl⟩), Position.index?_number_eq_none_iff.mpr hout⟩
  · rintro ⟨p, ⟨hend, rfl⟩ | ⟨hend, rfl⟩ | ⟨n, hn, rfl⟩, hnone⟩
    · exact .inl ⟨.inl hend, by simpa [Position.index?] using hnone⟩
    · exact .inl ⟨.inr hend, by simpa [Position.index?] using hnone⟩
    · exact .inr ⟨n, hn, Position.index?_number_eq_none_iff.mp hnone⟩

/-- Only a segment that means a position can miss one. -/
theorem misses_iff_of_ofSegment {segment : String} {step : Step}
    (hstep : Step.ofSegment segment = step) (length : Nat) :
    Misses segment length ↔ ∃ p, step = .position p ∧ p.index? length = none := by
  rw [misses_iff, hstep]

end Path

namespace Value

/-! ## The places a write comes to -/

/-- The container that a write takes a missing field for. Where the next segment means a position,
that is looked for in an array without items. -/
def madeField (field next : String) : Value :=
  match Path.Step.ofSegment next with
  | .append | .position _ => .array []
  | .all | .field =>
    if Hash.arrayMarker.toList.isSuffixOf field.toList then .array [] else .hash []

/-- The places a write comes to behind a segment in a hash, if `onward` lists those that follow. -/
def walkFields (head next : String) (onward : Value → List (Path × Value)) (fields : Hash) :
    List (Path × Value) :=
  if fields.hasMatch head then (fields.matching head).flatMap fun field => onward field.2
  else onward (madeField head next)

/-- The places a write comes to behind a segment in an array, if `onward` lists those that follow.
Strings among the items are passed over. -/
def walkItems (head next : String) (tail : Path) (onward : Value → List (Path × Value))
    (items : List Value) : List (Path × Value) :=
  match Path.Step.ofSegment head with
  | .append => onward (newItem (next :: tail))
  | .all => items.flatMap fun v => if v.kind = .string then [] else onward v
  | .field => walkFields head next onward []
  | .position p => ((p.index? items.length).bind (items[·]?)).toList.flatMap onward

/-- The places a write comes to, in order: each with the path that is left there. -/
def walk : Path → Value → List (Path × Value)
  | [], _ => []
  | [segment], v => [([segment], v)]
  | head :: next :: tail, v =>
    (head :: next :: tail, v) ::
      match v with
      | .string _ => []
      | .hash fields => walkFields head next (walk (next :: tail)) fields
      | .array items => walkItems head next tail (walk (next :: tail)) items

/-- Why a write cannot pass a place. -/
def obstacle : Path × Value → Option FixError
  | (_, .string _) => some (.typeMismatch .hash .string)
  | (segment :: _, .array items) =>
    if Path.Misses segment items.length then some (noPosition segment items) else none
  | _ => none

/-! ## A write fails at the first obstacle -/

theorem findSome?_flatMap {α β γ : Type} (f : α → List β) (g : β → Option γ) (xs : List α) :
    (xs.flatMap f).findSome? g = xs.findSome? fun x => (f x).findSome? g := by
  induction xs with
  | nil => rfl
  | cons x rest ih =>
    rw [List.flatMap_cons, List.findSome?_append, ih, List.findSome?_cons]
    cases (f x).findSome? g <;> rfl

theorem error_editItems (edit : Value → Edited Value) (items : List Value) :
    (editItems edit items).error = items.findSome? fun v => (edit v).error := by
  induction items with
  | nil => rfl
  | cons v rest ih =>
    unfold editItems
    cases herror : (edit v).error with
    | none => simp [herror, ih]
    | some e => simp [herror]

theorem error_editFields (p : FieldPattern) (edit : Value → Edited Value) (fields : Hash) :
    (editFields p edit fields).error =
      (fields.filter fun field => p.holds field.1).findSome? fun field => (edit field.2).error := by
  induction fields with
  | nil => rfl
  | cons field rest ih =>
    obtain ⟨name, v⟩ := field
    unfold editFields
    by_cases hp : p.holds name
    · cases herror : (edit v).error <;> simp [hp, herror, ih]
    · simp [hp, ih]

theorem exists_walk_eq_cons (head : String) (tail : Path) (v : Value) :
    ∃ rest, walk (head :: tail) v = (head :: tail, v) :: rest := by
  cases tail with
  | nil => exact ⟨[], rfl⟩
  | cons next tail => exact ⟨_, rfl⟩

variable {next : Value → Edited Value}

theorem newContainer_eq (head segment : String) (tail : Path) :
    newContainer head (segment :: tail) =
      match Path.Step.ofSegment segment with
      | .position _ => .error (noPosition segment [])
      | _ => .ok (madeField head segment) := by
  unfold newContainer madeField
  cases hstep : Path.Step.ofSegment segment <;> simp [hstep]
  · split <;> rfl
  · split <;> rfl

theorem obstacle_array (segment : String) (tail : Path) (items : List Value) :
    obstacle (segment :: tail, .array items) =
      match Path.Step.ofSegment segment with
      | .position p =>
        if p.index? items.length = none then some (noPosition segment items) else none
      | _ => none := by
  rw [obstacle]
  cases hstep : Path.Step.ofSegment segment <;>
    simp [Path.misses_iff_of_ofSegment hstep]

/-- A write into a missing field fails at a position, and otherwise goes on in what is made. -/
theorem error_insertFields_of_not_hasMatch {head segment : String} {tail : Path} {fields : Hash}
    (hnew : ¬ fields.hasMatch head = true)
    (hnext : ∀ v, (next v).error = (walk (segment :: tail) v).findSome? obstacle) :
    (insertFields head (segment :: tail) next fields).error =
      (walk (segment :: tail) (madeField head segment)).findSome? obstacle := by
  rw [insertFields, if_neg hnew, newContainer_eq]
  cases hstep : Path.Step.ofSegment segment with
  | position p =>
    obtain ⟨rest, hwalk⟩ := exists_walk_eq_cons segment tail (.array [])
    have hlacks : p.index? ([] : List Value).length = none := by
      rcases p with - | - | - | n <;> rfl
    simp only [madeField, hstep, hwalk, List.findSome?_cons, obstacle_array, hlacks, if_true]
  | append | all | field => exact hnext _

theorem error_insertFields {segment : String} {tail : Path}
    (hnext : ∀ v, (next v).error = (walk (segment :: tail) v).findSome? obstacle)
    (head : String) (fields : Hash) :
    (insertFields head (segment :: tail) next fields).error =
      (walkFields head segment (walk (segment :: tail)) fields).findSome? obstacle := by
  by_cases hmatch : fields.hasMatch head = true
  · rw [insertFields, if_pos hmatch, walkFields, if_pos hmatch, error_editFields,
      findSome?_flatMap]
    simp only [hnext]
    rfl
  · rw [error_insertFields_of_not_hasMatch hmatch hnext, walkFields, if_neg hmatch]

/-- A write into an array ends there if the array lacks the position, and else goes on behind it. -/
theorem error_insertItems {segment : String} {tail : Path}
    (hnext : ∀ v, (next v).error = (walk (segment :: tail) v).findSome? obstacle)
    (head : String) (items : List Value) :
    (insertItems head (segment :: tail) next items).error =
      ((head :: segment :: tail, Value.array items) ::
        walkItems head segment tail (walk (segment :: tail)) items).findSome? obstacle := by
  rw [List.findSome?_cons, obstacle_array]
  unfold insertItems walkItems
  cases hstep : Path.Step.ofSegment head with
  | append =>
    dsimp only
    rw [← hnext]
    cases herror : (next (newItem (segment :: tail))).error <;> rfl
  | all =>
    dsimp only
    rw [error_editItems, findSome?_flatMap]
    congr 1
    funext v
    split
    · rfl
    · exact hnext v
  | field =>
    dsimp only
    rw [← error_insertFields hnext]
    cases herror : (insertFields head (segment :: tail) next []).error <;> rfl
  | position p =>
    cases hi : p.index? items.length with
    | none => simp only [hi, if_true]
    | some i =>
      cases hitem : items[i]? with
      | none => simp [hi, hitem]
      | some v => simp [hi, hitem, hnext]

theorem error_writeItem (v : Value) (segment : String) (items : List Value) :
    (writeItem v segment items).error = obstacle ([segment], .array items) := by
  rw [obstacle_array]
  unfold writeItem
  cases hstep : Path.Step.ofSegment segment with
  | append | all | field => rfl
  | position p => cases hi : p.index? items.length <;> simp [hi]

/-- A write ends with the error of the first place that it cannot pass. -/
theorem error_insert (mode : WriteMode) (v : Value) (p : Path) (target : Value) :
    (insert mode v p target).error = (walk p target).findSome? obstacle := by
  induction p generalizing target with
  | nil => rfl
  | cons head tail ih =>
    cases tail with
    | nil =>
      rw [walk, List.findSome?_singleton]
      cases target with
      | string s => rfl
      | hash fields => rfl
      | array items => exact error_writeItem v head items
    | cons segment tail =>
      cases target with
      | string s => rfl
      | hash fields => exact error_insertFields ih head fields
      | array items => exact error_insertItems ih head items

theorem obstacle_eq_pathResolution_iff {place : Path × Value} {segment container : String} :
    obstacle place = some (.pathResolution segment container) ↔
      ∃ rest items, place = (segment :: rest, .array items) ∧
        Path.Misses segment items.length ∧ container = (Value.array items).text := by
  constructor
  · intro h
    obtain ⟨_ | ⟨head, rest⟩, s | items | fields⟩ := place
    case cons.array =>
      by_cases hmisses : Path.Misses head items.length
      · rw [obstacle, if_pos hmisses] at h
        cases h
        exact ⟨rest, items, rfl, hmisses, rfl⟩
      · rw [obstacle, if_neg hmisses] at h
        cases h
    all_goals cases h
  · rintro ⟨rest, items, rfl, hmisses, rfl⟩
    rw [obstacle, if_pos hmisses]
    rfl

end Value

namespace Hash

/-- A write along the path comes to the place: nothing before it is an obstacle. -/
def ComesTo (h : Hash) (p : Path) (place : Path × Value) : Prop :=
  ∃ passed rest, Value.walk p (.hash h) = passed ++ place :: rest ∧
    ∀ earlier ∈ passed, Value.obstacle earlier = none

theorem error_insert_eq_some_iff {h : Hash} {mode : WriteMode} {p : Path} {v : Value}
    {err : FixError} :
    (h.insert mode p v).error = some err ↔
      ∃ place, h.ComesTo p place ∧ Value.obstacle place = some err := by
  have herror : (h.insert mode p v).error = (Value.walk p (.hash h)).findSome? Value.obstacle := by
    rw [← Value.error_insert mode v, ← map_hash_insert]
    rfl
  rw [herror, List.findSome?_eq_some_iff]
  constructor
  · rintro ⟨passed, place, rest, hwalk, hplace, hpassed⟩
    exact ⟨place, ⟨passed, rest, hwalk, hpassed⟩, hplace⟩
  · rintro ⟨place, ⟨passed, rest, hwalk, hpassed⟩, hplace⟩
    exact ⟨passed, place, rest, hwalk, hplace, hpassed⟩

/-- Setting and adding fail for want of a position where the write comes to an array that lacks the
position which the next segment means, and nowhere else. A field that is missing there counts as an
array without items. -/
theorem write_misses_iff (h : Hash) (p : Path) (v : Value) (segment container : String) :
    let missed := ∃ rest items, h.ComesTo p (segment :: rest, .array items) ∧
      Path.Misses segment items.length ∧ container = (Value.array items).text
    ((h.setPath p v).error = some (.pathResolution segment container) ↔ missed) ∧
      ((h.appendPath p v).error = some (.pathResolution segment container) ↔ missed) := by
  intro missed
  have hwrite (mode : WriteMode) :
      (h.insert mode p v).error = some (.pathResolution segment container) ↔ missed := by
    rw [error_insert_eq_some_iff]
    constructor
    · rintro ⟨place, hcomes, hplace⟩
      obtain ⟨rest, items, rfl, hmisses⟩ := Value.obstacle_eq_pathResolution_iff.mp hplace
      exact ⟨rest, items, hcomes, hmisses⟩
    · rintro ⟨rest, items, hcomes, hmisses⟩
      exact ⟨_, hcomes, Value.obstacle_eq_pathResolution_iff.mpr ⟨rest, items, rfl, hmisses⟩⟩
  exact ⟨hwrite .replace, hwrite .append⟩

/-- A number beyond sixty-four bits is no position but a name, and so is every number in the hash
that is made for a new item. -/
theorem position_taken_for_name :
    (¬ ∀ (items : List Value) (n : Nat) (v : Value), items.length < n →
      (setPath [("a", .array items)] ["a", toString n] v).error.isSome) ∧
    ¬ ∀ (items : List Value) (n : Nat) (v : Value),
      (setPath [("a", .array items)] ["a", "$append", toString n] v).error.isSome := by
  constructor
  · intro hall
    exact absurd (hall [] (2 ^ 64) (.string "x") (by decide)) (by decide +kernel)
  · intro hall
    exact absurd (hall [] 1 (.string "x")) (by decide +kernel)

end Hash

end RecordFix
