import RecordFix.Batch.Records
import RecordFix.Proofs.Json.Reading
import RecordFix.Proofs.Value.Documents

/-!
# Output is read back

Records are written as one array, compact or indented, or one on each line (`Layout`). The reader of
records tells an array from lines by its first character, and reads in every layout what was
written: the same fields in the same order, with no virtual fields and no mark of rejection
(`Records.parse_render`).
-/

namespace RecordFix

/-- How records are laid out as text: as one array, compact or indented, or one on each line, where
a line break may end the last line too. -/
inductive Layout where
  | compact
  | indented
  | lines (closed : Bool)
  deriving DecidableEq, Repr

namespace Records

/-- The documents of the fields of records. -/
def documents (records : List Record) : List Json :=
  records.map fun record => (Value.hash record.fields).toJson

/-- The text of records in a layout. -/
def render (records : List Record) : Layout → String
  | .compact => (toJson records).compact
  | .indented => (toJson records).indented
  | .lines closed =>
    "\n".intercalate (records.map (·.fields.text)) ++ (if closed then "\n" else "")

/-- How deep arrays and objects are nested in the text of records in a layout. -/
def nesting (records : List Record) : Layout → Nat
  | .lines _ => Json.depthOfItems (documents records)
  | _ => (toJson records).depth

/-! ## What is written -/

theorem toJson_eq (records : List Record) :
    toJson records = (Value.array (records.map fun record => .hash record.fields)).toJson := by
  rw [Value.toJson, Value.toJsonItems_eq_map, List.map_map]
  rfl

theorem textual_toJson (records : List Record) : (toJson records).Textual := by
  rw [toJson_eq]
  exact Value.textual_toJson _

theorem textual_documents (records : List Record) : ∀ j ∈ documents records, j.Textual := by
  intro j hj
  obtain ⟨record, -, rfl⟩ := List.mem_map.mp hj
  exact Value.textual_toJson _

theorem toList_render_lines (records : List Record) (closed : Bool) :
    (render records (.lines closed)).toList =
      ['\n'].intercalate ((documents records).map Json.write) ++
        (if closed then ['\n'] else []) := by
  have htext (record : Record) :
      record.fields.text.toList = ((Value.hash record.fields).toJson).write :=
    String.toList_ofList
  rw [render, String.toList_append, String.toList_intercalate, documents, List.map_map,
    List.map_map]
  congr 1
  · exact congrArg _ (List.map_congr_left fun record _ => htext record)
  · cases closed <;> rfl

/-! ## How it is told apart -/

theorem documents?_of_bracket {text : String} {rest : List Char} (h : text.toList = '[' :: rest)
    {items : List Json} (hparse : Json.parse? text = some (.array items)) :
    documents? text = some items := by
  have hblank : ¬ Unicode.isBlank '[' = true := by decide +kernel
  have hfirst : (Text.trimStart text.toList).head? = some '[' := by
    rw [h, Text.trimStart, List.dropWhile_cons_of_neg hblank]
    rfl
  rw [documents?, if_pos hfirst, hparse]

theorem documents?_of_brace {text : String} {rest : List Char}
    (h : text.toList = '\x7b' :: rest) : documents? text = Json.documents? text.toList := by
  have hblank : ¬ Unicode.isBlank '\x7b' = true := by decide +kernel
  have hfirst : ¬ (Text.trimStart text.toList).head? = some '[' := by
    rw [h, Text.trimStart, List.dropWhile_cons_of_neg hblank, List.head?_cons, Option.some.injEq]
    decide
  rw [documents?, if_neg hfirst]

theorem toList_compact_eq_cons (records : List Record) :
    ∃ rest, (toJson records).compact.toList = '[' :: rest := by
  rw [Json.compact, String.toList_ofList, toJson, Json.write]
  exact ⟨_, rfl⟩

theorem toList_indented_eq_cons (records : List Record) :
    ∃ rest, (toJson records).indented.toList = '[' :: rest := by
  rw [Json.indented, String.toList_ofList, toJson, Json.writeIndented, Json.block]
  split
  · exact ⟨_, rfl⟩
  · exact ⟨_, rfl⟩

/-- The first line is a record, so it begins like one. -/
theorem toList_render_lines_eq_cons {records : List Record} (hne : records ≠ []) (closed : Bool) :
    ∃ rest, (render records (.lines closed)).toList = '\x7b' :: rest := by
  obtain ⟨record, others, rfl⟩ := List.exists_cons_of_ne_nil hne
  rw [toList_render_lines, documents, List.map_cons, List.map_cons, Value.toJson, Json.write]
  cases others with
  | nil => exact ⟨_, rfl⟩
  | cons next others =>
    rw [List.map_cons, List.map_cons, List.intercalate_cons_cons]
    exact ⟨_, rfl⟩

/-- In every layout the documents are found that were written. -/
theorem documents?_render (layout : Layout) {records : List Record} (hne : records ≠ [])
    (hdepth : nesting records layout ≤ Json.maxDepth) :
    documents? (render records layout) = some (documents records) := by
  cases layout with
  | compact =>
    obtain ⟨rest, hrest⟩ := toList_compact_eq_cons records
    exact documents?_of_bracket hrest (Json.parse?_compact (textual_toJson records) hdepth)
  | indented =>
    obtain ⟨rest, hrest⟩ := toList_indented_eq_cons records
    exact documents?_of_bracket hrest (Json.parse?_indented (textual_toJson records) hdepth)
  | lines closed =>
    obtain ⟨rest, hrest⟩ := toList_render_lines_eq_cons hne closed
    have hlines := Json.spells_lines (documents records) (textual_documents records)
    have hend : Json.Token.Spells (if closed then ['\n'] else []) [] := by
      cases closed with
      | false => exact .nil
      | true => exact .blank rfl .nil
    have hspells := hlines.append hend
    rw [← toList_render_lines, List.append_nil] at hspells
    rw [documents?_of_brace hrest]
    exact Json.documents?_of_spells hspells fun j hj =>
      Nat.le_trans (Json.depth_le_depthOfItems hj) hdepth

/-! ## What is read -/

theorem ofDocuments_documents (index : Nat) (records : List Record)
    (hdistinct : ∀ record ∈ records, (Value.hash record.fields).Distinct) :
    ofDocuments index (documents records) =
      .ok (records.map fun record => .ofFields record.fields) := by
  induction records generalizing index with
  | nil => rfl
  | cons record rest ih =>
    rw [List.forall_mem_cons] at hdistinct
    rw [documents, List.map_cons, ofDocuments, Value.ofJson?_toJson _ hdistinct.1]
    exact congrArg (Except.map _) (ih (index + 1) hdistinct.2)

/-- Records are read back in every layout, if their hashes have no name twice and the text is not
nested too deep: as many records, with the same fields in the same order at every depth, without
virtual fields and not rejected. -/
theorem parse_render (layout : Layout) {records : List Record} (hne : records ≠ [])
    (hdistinct : ∀ record ∈ records, (Value.hash record.fields).Distinct)
    (hdepth : nesting records layout ≤ Json.maxDepth) :
    parse (render records layout) =
      .ok (records.map fun record =>
        { fields := record.fields, virtualFields := [], rejected := false }) := by
  have hread := ofDocuments_documents 0 records hdistinct
  obtain ⟨record, others, rfl⟩ := List.exists_cons_of_ne_nil hne
  rw [parse, documents?_render layout hne hdepth]
  exact hread

/-- A record with a line break in a field, and one without fields that is rejected. -/
def notesSample : List Record :=
  [.ofFields [("b", .hash [("y", .string "\n"), ("x", .array [])]), ("a", .string "\"")],
    { virtualFields := [(Record.idField, .string "2")], rejected := true }]

/-- A line break in a field does not end the line of the record. -/
theorem parse_render_notesSample :
    render notesSample (.lines true) =
        "\x7b\"b\":\x7b\"y\":\"\\n\",\"x\":[]\x7d,\"a\":\"\\\"\"\x7d\n\x7b\x7d\n" ∧
      nesting notesSample (.lines true) = 3 ∧
      parse (render notesSample (.lines true)) =
        .ok [.ofFields [("b", .hash [("y", .string "\n"), ("x", .array [])]),
          ("a", .string "\"")], .ofFields []] := by
  have hdistinct : ∀ record ∈ notesSample, (Value.hash record.fields).Distinct := by
    simp [notesSample, Record.ofFields, Value.Distinct, Value.DistinctFields, Value.DistinctItems,
      Entries.Unique, Entries.names]
  exact ⟨by decide +kernel, by decide +kernel,
    parse_render (.lines true) (by decide) hdistinct (by decide +kernel)⟩

end Records

end RecordFix
