import RecordFix.Entries
import RecordFix.Error

/-!
# Values

A record is a tree: strings at the leaves, arrays of values, and hashes, which associate field names
with values in order. Nothing in the tree is absent or null.
-/

namespace RecordFix

/-- A value of a record. -/
inductive Value where
  | string (s : String)
  | array (items : List Value)
  | hash (fields : List (String × Value))

/-- Field names with values, in order. -/
abbrev Hash := Entries Value

namespace Value

instance : Inhabited Value := ⟨.string ""⟩

/-- What holds of every string, and of a container if it holds of all that is in it, holds of every
value. -/
@[elab_as_elim]
theorem induct {P : Value → Prop} (string : ∀ s, P (.string s))
    (array : ∀ items : List Value, (∀ v ∈ items, P v) → P (.array items))
    (hash : ∀ fields : Hash, (∀ field ∈ fields, P field.2) → P (.hash fields)) (v : Value) : P v :=
  Value.rec (motive_1 := P) (motive_2 := fun items => ∀ v ∈ items, P v)
    (motive_3 := fun fields => ∀ field ∈ fields, P field.2) (motive_4 := fun field => P field.2)
    string array hash (by simp) (fun _ _ hv hrest => List.forall_mem_cons.mpr ⟨hv, hrest⟩)
    (by simp) (fun _ _ hv hrest => List.forall_mem_cons.mpr ⟨hv, hrest⟩) (fun _ _ hv => hv) v

mutual

/-- Decides whether two values are equal, with fields in the same order. -/
def decEq : (v w : Value) → Decidable (v = w)
  | .string s, .string t => decidable_of_iff (s = t) (string.injEq s t).to_iff.symm
  | .array items, .array others =>
    @decidable_of_iff _ (items = others) (array.injEq items others).to_iff.symm
      (decEqItems items others)
  | .hash fields, .hash others =>
    @decidable_of_iff _ (fields = others) (hash.injEq fields others).to_iff.symm
      (decEqFields fields others)
  | .string _, .array _ | .string _, .hash _ | .array _, .string _ | .array _, .hash _
  | .hash _, .string _ | .hash _, .array _ => isFalse nofun

/-- Decides whether two lists of items are equal. -/
def decEqItems : (items others : List Value) → Decidable (items = others)
  | [], [] => isTrue rfl
  | [], _ :: _ | _ :: _, [] => isFalse nofun
  | v :: rest, w :: more =>
    match decEq v w, decEqItems rest more with
    | isTrue hv, isTrue hrest => isTrue (hv ▸ hrest ▸ rfl)
    | isFalse hv, _ => isFalse fun h => hv (List.cons.inj h).1
    | _, isFalse hrest => isFalse fun h => hrest (List.cons.inj h).2

/-- Decides whether two lists of fields are equal. -/
def decEqFields : (fields others : List (String × Value)) → Decidable (fields = others)
  | [], [] => isTrue rfl
  | [], _ :: _ | _ :: _, [] => isFalse nofun
  | (name, v) :: rest, (other, w) :: more =>
    match decEq v w, decEqFields rest more with
    | isTrue hv, isTrue hrest =>
      decidable_of_iff (name = other) (by simp [hv, hrest])
    | isFalse hv, _ => isFalse fun h => hv (Prod.mk.inj (List.cons.inj h).1).2
    | _, isFalse hrest => isFalse fun h => hrest (List.cons.inj h).2

end

instance : DecidableEq Value := decEq

/-- The kind of a value. -/
def kind : Value → Kind
  | .string _ => .string
  | .array _ => .array
  | .hash _ => .hash

/-- Whether the value is the empty string, array or hash. -/
def isEmpty : Value → Bool
  | .string s => s.isEmpty
  | .array items => items.isEmpty
  | .hash fields => fields.isEmpty

/-- An array's items; any other value as the only item. -/
def toList : Value → List Value
  | .array items => items
  | v => [v]

/-- The string of a value that must be one. -/
def asString : Value → Except FixError String
  | .string s => .ok s
  | v => .error (.typeMismatch .string v.kind)

/-- The items of a value that must be an array. -/
def asArray : Value → Except FixError (List Value)
  | .array items => .ok items
  | v => .error (.typeMismatch .array v.kind)

/-- The fields of a value that must be a hash. -/
def asHash : Value → Except FixError Hash
  | .hash fields => .ok fields
  | v => .error (.typeMismatch .hash v.kind)

/-- An array of strings. -/
def ofStrings (texts : List String) : Value := .array (texts.map .string)

mutual

/-- How many values there are in the tree. -/
def weight : Value → Nat
  | .string _ => 1
  | .array items => 1 + weightOfItems items
  | .hash fields => 1 + weightOfFields fields

/-- How many values there are in the items. -/
def weightOfItems : List Value → Nat
  | [] => 0
  | v :: rest => v.weight + weightOfItems rest

/-- How many values there are in the fields. -/
def weightOfFields : List (String × Value) → Nat
  | [] => 0
  | (_, v) :: rest => v.weight + weightOfFields rest

end

mutual

/-- The value without the empty strings, arrays and hashes below it. A container that holds nothing
else is empty itself and goes as well. -/
def removeEmpty : Value → Value
  | .string s => .string s
  | .array items => .array (removeEmptyItems items)
  | .hash fields => .hash (removeEmptyFields fields)

/-- The items without empty values. -/
def removeEmptyItems : List Value → List Value
  | [] => []
  | v :: rest =>
    let kept := v.removeEmpty
    if kept.isEmpty then removeEmptyItems rest else kept :: removeEmptyItems rest

/-- The fields without empty values. -/
def removeEmptyFields : List (String × Value) → List (String × Value)
  | [] => []
  | (name, v) :: rest =>
    let kept := v.removeEmpty
    if kept.isEmpty then removeEmptyFields rest else (name, kept) :: removeEmptyFields rest

end

mutual

/-- Every hash in the tree has each of its names once. -/
def Distinct : Value → Prop
  | .string _ => True
  | .array items => DistinctItems items
  | .hash fields => Entries.Unique fields ∧ DistinctFields fields

/-- Every hash in the items has each of its names once. -/
def DistinctItems : List Value → Prop
  | [] => True
  | v :: rest => v.Distinct ∧ DistinctItems rest

/-- Every hash in the fields has each of its names once. -/
def DistinctFields : List (String × Value) → Prop
  | [] => True
  | (_, v) :: rest => v.Distinct ∧ DistinctFields rest

end

mutual

/-- Decides whether every hash in the tree has each of its names once. -/
def decDistinct : (v : Value) → Decidable v.Distinct
  | .string _ => isTrue trivial
  | .array items => decDistinctItems items
  | .hash fields =>
    @instDecidableAnd (Entries.Unique fields) _ inferInstance (decDistinctFields fields)

/-- Decides whether every hash in the items has each of its names once. -/
def decDistinctItems : (items : List Value) → Decidable (DistinctItems items)
  | [] => isTrue trivial
  | v :: rest => @instDecidableAnd _ _ (decDistinct v) (decDistinctItems rest)

/-- Decides whether every hash in the fields has each of its names once. -/
def decDistinctFields : (fields : List (String × Value)) → Decidable (DistinctFields fields)
  | [] => isTrue trivial
  | (_, v) :: rest => @instDecidableAnd _ _ (decDistinct v) (decDistinctFields rest)

end

instance : DecidablePred Distinct := decDistinct

theorem distinct_array {items : List Value} :
    (array items).Distinct ↔ ∀ v ∈ items, v.Distinct := by
  rw [Distinct]
  induction items with
  | nil => simp [DistinctItems]
  | cons v rest ih => rw [DistinctItems, ih, List.forall_mem_cons]

theorem distinct_hash {fields : Hash} :
    (hash fields).Distinct ↔ fields.Unique ∧ ∀ field ∈ fields, field.2.Distinct := by
  have hfields : DistinctFields fields ↔ ∀ field ∈ fields, field.2.Distinct := by
    induction fields with
    | nil => simp [DistinctFields]
    | cons field rest ih => rw [DistinctFields, ih, List.forall_mem_cons]
  rw [Distinct, hfields]

end Value

end RecordFix
