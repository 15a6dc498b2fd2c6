import RecordFix.Fix.Predicate
import RecordFix.Proofs.Regex.Enclosing

/-!
# Comparing strings with an expression

The predicates that compare strings with an expression ask whether the whole of a string is matched
(`Predicate.test_pattern`). The expression is put between anchors as text, so this holds of the
expressions that can be written there: a text that closes a group of its own accord may be accepted
though it is no expression, and an expression that leaves a comment open is refused.
-/

namespace RecordFix

/-! ## The strings of a value -/

/-- The string is the value or an item of its arrays, at any depth; what hashes hold does not
count. -/
inductive Value.Lists : Value → String → Prop
  | string (s : String) : Lists (.string s) s
  | item {items : List Value} {v : Value} {s : String} : v ∈ items → Lists v s →
      Lists (.array items) s

theorem Value.lists_of_mem_strings (v : Value) (s : String) (h : s ∈ v.strings) : v.Lists s := by
  match v with
  | .string t =>
    obtain rfl : s = t := by simpa using h
    exact .string s
  | .array items =>
    rw [strings_array] at h
    obtain ⟨w, hw, hs⟩ := List.mem_flatMap.mp h
    exact .item hw (lists_of_mem_strings w s hs)
  | .hash fields =>
    rw [strings_hash] at h
    cases h
termination_by v
decreasing_by
  have := List.sizeOf_lt_of_mem hw
  simp only [Value.array.sizeOf_spec]
  omega

theorem Value.mem_strings_iff (v : Value) (s : String) : s ∈ v.strings ↔ v.Lists s := by
  constructor
  · exact lists_of_mem_strings v s
  · intro h
    induction h with
    | string s => simp
    | item hv _ ih =>
      rw [strings_array]
      exact List.mem_flatMap.mpr ⟨_, hv, ih⟩

/-- A string is found that passes a test; there is none to be found where nothing is. -/
def Quantifier.Says (quantifier : Quantifier) (holds : String → Prop) (found : Option Value) :
    Prop :=
  match quantifier with
  | .any => ∃ v ∈ found, ∃ s, v.Lists s ∧ holds s
  | .none => ¬ ∃ v ∈ found, ∃ s, v.Lists s ∧ holds s
  | .all => (∃ v ∈ found, ∃ s, v.Lists s) ∧ ∀ v ∈ found, ∀ s, v.Lists s → holds s

theorem Quantifier.holdsFor_iff (quantifier : Quantifier) (test : String → Bool)
    (found : Option Value) :
    Predicate.holdsFor quantifier test ((found.map Value.strings).getD []) = true ↔
      quantifier.Says (fun s => test s = true) found := by
  cases found with
  | none => cases quantifier <;> simp [Predicate.holdsFor, Says]
  | some v =>
    have hstrings (s : String) : v.Lists s ↔ s ∈ v.strings := (v.mem_strings_iff s).symm
    cases quantifier
    · have hsome : (∃ s, s ∈ v.strings) ↔ v.strings ≠ [] := by
        rw [ne_eq, List.eq_nil_iff_forall_not_mem, not_forall_not]
      simp [Predicate.holdsFor, Says, hstrings, hsome]
    · simp [Predicate.holdsFor, Says, hstrings]
    · simp [Predicate.holdsFor, Says, hstrings]

namespace Predicate

theorem test_compares (quantifier : Quantifier) (comparison : Comparison) (record : Record)
    (path text : String) :
    test (.compares quantifier comparison) record [path, text] =
      compare quantifier comparison text (record.find (Path.ofString path)) := rfl

/-- A record with animals, and an array and a hash among them. -/
def animalsSample : Record :=
  .ofFields
    [("animals", .array [.string "cat", .array [.string "catt"], .hash [("x", .string "c")]])]

end Predicate

end RecordFix
