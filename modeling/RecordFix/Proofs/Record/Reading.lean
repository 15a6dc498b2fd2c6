import RecordFix.Record

/-!
# Reading records

A record is read as its fields are, if the first segment of the path names one of them, and as its
virtual fields are if it names none (`Record.find_eq_findPath`). Where a field is named, the virtual
fields do not count, even if the rest of the path leads nowhere in the field. Fields themselves are
read segment by segment: a single field that a segment names is gone into by its name, and several
are gone into as a group (`Hash.findPath_eq_follow`).
-/

namespace RecordFix

namespace Hash

variable {h : Hash} {pattern name : String}

/-- What fields have along a path. At the last segment this is the value that is found, be it that
of one field or of a group; before it, the way goes on in the one field that is named, or in the
group of several. -/
def follow (h : Hash) (head : String) (tail : Path) : Option Value :=
  if tail.isEmpty then h.find head
  else
    match h.matchingNames head with
    | [] => none
    | [name] => (Entries.get? h name).bind (Value.find tail)
    | _ => (h.find head).bind (Value.find tail)

theorem matchingNames_eq_nil_iff : h.matchingNames pattern = [] ↔ h.hasMatch pattern = false := by
  simp [matchingNames, hasMatch]

theorem find_of_matchingNames_eq_nil (hnone : h.matchingNames pattern = []) :
    h.find pattern = none := by
  rw [find, List.map_eq_nil_iff.mp hnone]
  rfl

/-- A field that alone is named by a pattern is found by its name. -/
theorem find_of_matchingNames_eq_singleton (hone : h.matchingNames pattern = [name]) :
    h.find pattern = Entries.get? h name := by
  obtain ⟨⟨other, v⟩, hmatching, hother⟩ := List.map_eq_singleton_iff.mp hone
  obtain rfl : other = name := hother
  have hmem : (other, v) ∈ h.matching pattern := by simp [hmatching]
  have hfield := List.mem_filter.mp hmem
  obtain ⟨w, hw⟩ := Option.ne_none_iff_exists'.mp fun hnone =>
    Entries.get?_eq_none_iff.mp hnone (List.mem_map_of_mem hfield.1)
  have hsame : (other, w) ∈ h.matching pattern :=
    List.mem_filter.mpr ⟨Entries.mem_of_get?_eq hw, hfield.2⟩
  rw [hmatching, List.mem_singleton] at hsame
  rw [find, hmatching, hw, (Prod.mk.inj hsame).2]
  rfl

theorem findPath_cons (h : Hash) (head : String) (tail : Path) :
    h.findPath (head :: tail) = (h.find head).bind (Value.find tail) := by
  rw [findPath, Value.find, Value.findStep]

theorem findPath_eq_follow (h : Hash) (head : String) (tail : Path) :
    h.findPath (head :: tail) = h.follow head tail := by
  rw [findPath_cons, follow]
  split
  · next hlast =>
    obtain rfl := List.isEmpty_iff.mp hlast
    exact Option.bind_fun_some _
  · split
    · next hnone => rw [find_of_matchingNames_eq_nil hnone, Option.bind_none]
    · next hone => rw [find_of_matchingNames_eq_singleton hone]
    · rfl

end Hash

namespace Record

theorem get_eq (r : Record) (pattern : String) :
    r.get pattern =
      (if r.fields.matchingNames pattern = [] then r.virtualFields else r.fields).find pattern := by
  rw [get]
  by_cases hnone : r.fields.matchingNames pattern = []
  · rw [Hash.matchingNames_eq_nil_iff.mp hnone, if_pos hnone, if_neg Bool.false_ne_true]
  · have hsome : r.fields.hasMatch pattern = true :=
      (Bool.not_eq_false _).mp (mt Hash.matchingNames_eq_nil_iff.mpr hnone)
    rw [hsome, if_neg hnone, if_pos rfl]

/-- A record is read as its fields are if the first segment of the path names one of them, and as
its virtual fields are if it names none; and hashes are read segment by segment. -/
theorem find_eq_findPath (r : Record) (path : String) :
    let p := Path.ofString path
    (r.fields.matchingNames p.head ≠ [] → r.find p = r.fields.findPath p) ∧
      (r.fields.matchingNames p.head = [] → r.find p = r.virtualFields.findPath p) ∧
      ∀ h : Hash, h.findPath p = h.follow p.head p.tail := by
  obtain ⟨head, tail, hpath⟩ := List.exists_cons_of_ne_nil (Path.ofString_ne_nil path)
  have hread : r.find (head :: tail) = (r.get head).bind (Value.find tail) := rfl
  rw [get_eq] at hread
  simp only [hpath, Path.head, List.headD_cons, List.tail_cons]
  refine ⟨fun hsome => ?_, fun hnone => ?_, fun h => h.findPath_eq_follow head tail⟩
  · rw [hread, if_neg hsome, Hash.findPath_cons]
  · rw [hread, if_pos hnone, Hash.findPath_cons]

/-- A field and two virtual fields. -/
def hiddenSample : Record :=
  { fields := [("a1", .string "x")]
    virtualFields := [("a2", .hash [("b", .string "y")]), ("c", .string "z")] }

/-- A field that is named hides a virtual field, although the rest of the path leads on in the
virtual field only; where no field is named the virtual field is found. -/
theorem find_eq_findPath_hiddenSample :
    (hiddenSample.fields.matchingNames "a*" ≠ [] ∧
      hiddenSample.find (Path.ofString "a*.b") = none ∧
      hiddenSample.virtualFields.findPath (Path.ofString "a*.b") = some (.string "y")) ∧
    (hiddenSample.fields.matchingNames "c*" = [] ∧
      hiddenSample.find (Path.ofString "c*") = some (.string "z")) := by
  have hhead : (Path.ofString "a*.b").head = "a*" := by decide +kernel
  have hlast : (Path.ofString "c*").head = "c*" := by decide +kernel
  have hsome : hiddenSample.fields.matchingNames "a*" ≠ [] := by decide +kernel
  have hnone : hiddenSample.fields.matchingNames "c*" = [] := by decide +kernel
  have hfields := (find_eq_findPath hiddenSample "a*.b").1 (hhead ▸ hsome)
  have hvirtual := (find_eq_findPath hiddenSample "c*").2.1 (hlast ▸ hnone)
  exact ⟨⟨hsome, hfields.trans (by decide +kernel), by decide +kernel⟩,
    hnone, hvirtual.trans (by decide +kernel)⟩

end Record

end RecordFix
