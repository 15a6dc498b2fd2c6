import RecordFix.Proofs.Glob.Translation
import RecordFix.Proofs.Path.Addressed

/-!
# The segment for every field

On an array the segment `*` means every item. On a hash it is a pattern like any other, and the runs
that it stands for hold no line feed: it names every field whose name holds none, and no other
(`Hash.every_field`).
-/

namespace RecordFix

open Glob

theorem FieldPattern.holds_star (name : String) :
    (ofString "*").holds name = !name.toList.contains '\n' := by
  have hwrites : Writes "*".toList [.anyChars] := .anyChars .nil
  have hparts : parts "*".toList = [.anyChars] := writes_iff.mp hwrites
  have hminus : ∀ negated members, .class negated members ∈ [Glob.Part.anyChars] →
      '-' ∉ members := by simp
  have hcompiles : compiles "*" = true := compiles_of_writes hwrites hminus (by decide +kernel)
  have hholds := holds_ofString (s := "*") (hparts ▸ hminus) name
  rw [if_pos hcompiles, hparts] at hholds
  have hfits : (ofString "*").holds name = true ↔ '\n' ∉ name.toList := by
    simpa [alternatives, alternativesFrom, fits_anyChars] using hholds
  rw [Bool.eq_iff_iff, hfits]
  simp

namespace Hash

/-- The fields whose names hold no line feed. -/
def withoutLineFeeds (h : Hash) : Hash := h.filter fun field => !field.1.toList.contains '\n'

theorem withoutLineFeeds_eq_self_iff (h : Hash) :
    h.withoutLineFeeds = h ↔ ∀ field ∈ h, '\n' ∉ field.1.toList := by
  simp [withoutLineFeeds, List.filter_eq_self]

theorem matching_star (h : Hash) : h.matching "*" = h.withoutLineFeeds := by
  unfold matching withoutLineFeeds
  simp only [FieldPattern.holds_star]

theorem removePath_star (h : Hash) :
    h.removePath (Path.ofString "*") = h.filter fun field => field.1.toList.contains '\n' := by
  rw [Path.ofString_of_notMem (by decide), removePath_singleton, remove]
  simp only [FieldPattern.holds_star, Bool.not_not]

theorem retain_star (h : Hash) : h.retain ["*"] = h.withoutLineFeeds := by
  simp [retain, withoutLineFeeds, FieldPattern.holds_star]

theorem addressed_star (h : Hash) :
    Value.addressed (Path.ofString "*") (.hash h) = h.withoutLineFeeds.map (·.2) := by
  rw [Path.ofString_of_notMem (by decide), Value.addressed, Value.addressedStep, matching_star]
  exact List.flatMap_singleton' _

/-- The segment `*` names the fields without line feeds in their names. They are read, removed, kept
and handed to an editor as they stand in the hash; and they are all fields just if no name holds a
line feed. -/
theorem every_field (h : Hash) :
    h.matchingNames "*" = h.withoutLineFeeds.map (·.1) ∧
      h.removePath (Path.ofString "*") = h.filter (fun field => field.1.toList.contains '\n') ∧
      h.retain ["*"] = h.withoutLineFeeds ∧
      (∀ (σ : Type) (f : Editor σ) (s : σ), (h.transformWith (Path.ofString "*") f s).map (·.2) =
        f.feed (h.withoutLineFeeds.map (·.2)) s) ∧
      (h.withoutLineFeeds = h ↔ ∀ field ∈ h, '\n' ∉ field.1.toList) := by
  refine ⟨?_, removePath_star h, retain_star h, fun σ f s => ?_, withoutLineFeeds_eq_self_iff h⟩
  · rw [matchingNames, matching_star]
  · rw [state_transformWith, addressed_star]

/-- A field whose name holds a line feed is not found, not removed and not kept. -/
theorem field_passed_over :
    let h : Hash := [("a\nb", .string "x")]
    h.matchingNames "*" = [] ∧ h.removePath (Path.ofString "*") = h ∧ h.retain ["*"] = [] := by
  intro h
  have hnone : h.withoutLineFeeds = [] := by decide
  refine ⟨?_, ?_, by rw [retain_star, hnone]⟩
  · rw [matchingNames, matching_star, hnone]
    rfl
  · rw [removePath_star]
    decide

end Hash

end RecordFix
