import RecordFix.Proofs.Json.Spelling
import RecordFix.Value.Json

/-!
# Values and their documents

The document of a value is made of strings, arrays and objects alone (`Value.textual_toJson`), and
the value is read back from it as long as no hash has a name twice (`Value.ofJson?_toJson`).
-/

namespace RecordFix.Value

/-! ## Writing -/

theorem toJsonItems_eq_map (items : List Value) : toJsonItems items = items.map toJson := by
  induction items with
  | nil => rfl
  | cons v rest ih => rw [toJsonItems, ih, List.map_cons]

mutual

theorem textual_toJson (v : Value) : v.toJson.Textual := by
  match v with
  | .string s =>
    rw [toJson, Json.Textual]
    trivial
  | .array items =>
    rw [toJson, Json.Textual]
    exact textualItems_toJsonItems items
  | .hash fields =>
    rw [toJson, Json.Textual]
    exact textualMembers_toJsonMembers fields

theorem textualItems_toJsonItems (items : List Value) :
    Json.TextualItems (toJsonItems items) := by
  match items with
  | [] =>
    rw [toJsonItems, Json.TextualItems]
    trivial
  | v :: rest =>
    rw [toJsonItems, Json.TextualItems]
    exact ⟨textual_toJson v, textualItems_toJsonItems rest⟩

theorem textualMembers_toJsonMembers (fields : List (String × Value)) :
    Json.TextualMembers (toJsonMembers fields) := by
  match fields with
  | [] =>
    rw [toJsonMembers, Json.TextualMembers]
    trivial
  | (name, v) :: rest =>
    rw [toJsonMembers, Json.TextualMembers]
    exact ⟨textual_toJson v, textualMembers_toJsonMembers rest⟩

end

/-! ## Reading -/

/-- Fields that all have a value are all present, and keep their order if no name is there twice. -/
theorem present_ofList {fields : Hash} (h : fields.Unique) :
    present (Entries.ofList (fields.map fun field => (field.1, some field.2))) = fields := by
  have hunique : Entries.Unique (fields.map fun field => (field.1, some field.2)) := by
    rw [Entries.Unique, Entries.names, List.map_map]
    exact h
  rw [Entries.ofList_of_unique hunique, present, List.filterMap_map]
  exact List.filterMap_some

mutual

/-- A value is read back from its document. -/
theorem ofJson?_toJson (v : Value) (h : v.Distinct) : ofJson? v.toJson = some v := by
  match v with
  | .string s => rw [toJson, ofJson?]
  | .array items =>
    rw [Distinct] at h
    rw [toJson, ofJson?, ofJsonItems_toJsonItems items h]
  | .hash fields =>
    rw [Distinct] at h
    rw [toJson, ofJson?, ofJsonMembers_toJsonMembers fields h.2, present_ofList h.1]

theorem ofJsonItems_toJsonItems (items : List Value) (h : DistinctItems items) :
    ofJsonItems (toJsonItems items) = items := by
  match items with
  | [] => rw [toJsonItems, ofJsonItems]
  | v :: rest =>
    rw [DistinctItems] at h
    rw [toJsonItems, ofJsonItems, ofJson?_toJson v h.1, ofJsonItems_toJsonItems rest h.2]
    rfl

theorem ofJsonMembers_toJsonMembers (fields : List (String × Value)) (h : DistinctFields fields) :
    ofJsonMembers (toJsonMembers fields) = fields.map fun field => (field.1, some field.2) := by
  match fields with
  | [] => rw [toJsonMembers, ofJsonMembers, List.map_nil]
  | (name, v) :: rest =>
    rw [DistinctFields] at h
    rw [toJsonMembers, ofJsonMembers, ofJson?_toJson v h.1, ofJsonMembers_toJsonMembers rest h.2,
      List.map_cons]

end

end RecordFix.Value
