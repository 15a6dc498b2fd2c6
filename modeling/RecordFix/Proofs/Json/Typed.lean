import RecordFix.Json.Typed
import RecordFix.Proofs.Json.Spelling

/-!
# Documents of known form are read back

Lists and pairs of strings are read back from their documents, and the fields of a structure are
found among the members of an object that has each of them once (`fields?_object`).
-/

namespace RecordFix.Json

/-! ## Lists and pairs of strings -/

/-- What is written item by item is read back item by item. -/
theorem mapM_map_eq_some {α β : Type} (write : α → β) (read : β → Option α)
    (h : ∀ a, read (write a) = some a) (as : List α) : (as.map write).mapM read = some as := by
  have hread : read ∘ write = fun a => pure a := funext h
  rw [List.mapM_map, hread, List.mapM_pure, List.map_id']
  rfl

theorem strings?_ofStrings (texts : List String) : strings? (ofStrings texts) = some texts :=
  mapM_map_eq_some string string? (fun _ => rfl) texts

theorem mapM_stringPair?_ofPairs (pairs : List (String × String)) :
    (pairs.map fun (key, s) => Json.array [.string key, .string s]).mapM stringPair? =
      some pairs :=
  mapM_map_eq_some _ stringPair? (fun _ => rfl) pairs

theorem textual_ofStrings (texts : List String) : (ofStrings texts).Textual := by
  rw [ofStrings, Textual, textualItems_iff]
  intro item hitem
  obtain ⟨s, -, rfl⟩ := List.mem_map.mp hitem
  rw [Textual]
  trivial

theorem textual_ofPairs (pairs : List (String × String)) : (ofPairs pairs).Textual := by
  rw [ofPairs, Textual, textualItems_iff]
  intro item hitem
  obtain ⟨pair, -, rfl⟩ := List.mem_map.mp hitem
  simp [Textual, TextualItems]

/-! ## Structures -/

/-- In an object without repeated keys the fields of a structure are what they are looked up to
be. -/
theorem fields?_object {members : Entries Json} (h : members.Unique) (names : List String) :
    fields? names (.object members) = some (names.map members.get?) := by
  have honce (name : String) : isRepeated members name = false := by
    have hfilter : (members.filter fun member => member.1 == name) =
        (members.get? name).toList.map (name, ·) := by
      rw [← Entries.filter_eq_get? h name]
      exact List.filter_congr fun member _ => Bool.beq_comm
    rw [isRepeated, hfilter, List.length_map, decide_eq_false_iff_not]
    cases members.get? name with
    | none => simp
    | some value => simp
  have hnone : names.any (isRepeated members) = false := by
    simp [honce]
  rw [fields?, hnone]
  rfl

end RecordFix.Json
