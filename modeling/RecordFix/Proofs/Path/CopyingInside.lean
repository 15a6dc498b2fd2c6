import RecordFix.Path.Copy
import RecordFix.Proofs.Value.Pruning

/-!
# Copying from inside a hash

A hash that is copied to a path of several segments is searched along the path without its first
segment, and what is found is copied to the same path. The path does not get shorter. What gets
smaller is the value: a path with a segment leads to an array, which may be put together on the way,
or to a value inside the one where it starts (`Value.mem_inner_of_find`), and there are fewer values
inside of that (`Value.length_inner_lt`). `Hash.Copies` spells out the calls one by one. They come
to an end for every value, with what `Hash.copyValue` says (`Hash.copyValue_ends`).
-/

namespace RecordFix

namespace Value

/-! ## Values inside a value -/

variable {v w : Value}

theorem mem_inner_array {items : List Value} :
    w ∈ (array items).inner ↔ ∃ v ∈ items, w = v ∨ w ∈ v.inner := by
  rw [inner, innerItems_eq_flatMap, List.mem_flatMap]
  simp only [List.mem_cons]

/-- The names of the fields do not count. -/
theorem inner_hash (fields : Hash) :
    (hash fields).inner = (array (fields.map (·.2))).inner := by
  rw [inner, inner, innerFields_eq_flatMap, innerItems_eq_flatMap, List.flatMap_map]

theorem mem_inner_hash {fields : Hash} :
    w ∈ (hash fields).inner ↔ ∃ field ∈ fields, w = field.2 ∨ w ∈ field.2.inner := by
  rw [inner, innerFields_eq_flatMap, List.mem_flatMap]
  simp only [List.mem_cons]

theorem infix_inner_array {items : List Value}
    (hitems : ∀ v ∈ items, w ∈ v.inner → w :: w.inner <:+: v.inner)
    (h : w ∈ (array items).inner) : w :: w.inner <:+: (array items).inner := by
  obtain ⟨v, hv, hw⟩ := mem_inner_array.mp h
  have hpart : v :: v.inner <:+: (array items).inner := by
    rw [inner, innerItems_eq_flatMap]
    exact List.infix_flatMap_of_mem hv fun v => v :: v.inner
  rcases hw with rfl | hw
  · exact hpart
  · exact ((hitems v hv hw).trans (List.suffix_cons v _).isInfix).trans hpart

/-- A value inside another stands there together with all that is inside of it. -/
theorem infix_inner (h : w ∈ v.inner) : w :: w.inner <:+: v.inner := by
  induction v using induct with
  | string s => cases h
  | array items ih => exact infix_inner_array ih h
  | hash fields ih =>
    rw [inner_hash] at h ⊢
    exact infix_inner_array (List.forall_mem_map.mpr ih) h

/-- There are fewer values inside of a value that is itself inside. -/
theorem length_inner_lt (h : w ∈ v.inner) : w.inner.length < v.inner.length :=
  Nat.lt_of_succ_le (infix_inner h).length_le

/-! ## What a path leads to -/

/-- What a pattern finds in a hash is the value of a field or an array of such values. -/
theorem mem_inner_of_findField {fields : Hash} {pattern : String} {g : Value}
    (h : Hash.find fields pattern = some g) :
    (g.kind ≠ .array → g ∈ (hash fields).inner) ∧ ∀ w ∈ g.inner, w ∈ (hash fields).inner := by
  have hfield : ∀ field ∈ fields.matching pattern, field ∈ fields :=
    fun field hmem => List.mem_of_mem_filter hmem
  unfold Hash.find at h
  generalize fields.matching pattern = matched at h hfield
  match matched, h with
  | [field], h =>
    obtain rfl : field.2 = g := Option.some.inj h
    have hmem : field ∈ fields := hfield field List.mem_cons_self
    exact ⟨fun _ => mem_inner_hash.mpr ⟨field, hmem, .inl rfl⟩,
      fun w hw => mem_inner_hash.mpr ⟨field, hmem, .inr hw⟩⟩
  | first :: second :: more, h =>
    obtain rfl : array ((first :: second :: more).map (·.2)) = g := Option.some.inj h
    refine ⟨fun hkind => absurd rfl hkind, fun w hw => ?_⟩
    obtain ⟨v, hv, hw⟩ := mem_inner_array.mp hw
    obtain ⟨field, hmem, rfl⟩ := List.mem_map.mp hv
    exact mem_inner_hash.mpr ⟨field, hfield field hmem, hw⟩

/-- What is collected is an array. -/
theorem kind_of_collect {values : List Value} (h : collect values = some v) : v.kind = .array := by
  unfold collect at h
  split at h
  · cases h
  · cases h
    rfl

/-- A path with a segment leads to an array or to a value inside the one where it starts. -/
theorem mem_inner_of_find {p : Path} (h : v.find p = some w) (hkind : w.kind ≠ .array)
    (hp : p ≠ []) : w ∈ v.inner := by
  induction p generalizing v with
  | nil => exact absurd rfl hp
  | cons head tail ih =>
    have htail : ∀ g : Value, g.find tail = some w → w = g ∨ w ∈ g.inner := by
      intro g hg
      by_cases hnil : tail = []
      · subst hnil
        exact .inl (Option.some.inj hg).symm
      · exact .inr (ih hg hnil)
    cases v with
    | string s => cases h
    | hash fields =>
      obtain ⟨g, hfound, hg⟩ := Option.bind_eq_some_iff.mp h
      rcases htail g hg with rfl | hw
      · exact (mem_inner_of_findField hfound).1 hkind
      · exact (mem_inner_of_findField hfound).2 w hw
    | array items =>
      simp only [find, findStep] at h
      split at h
      · cases h
      · split at h
        · cases h
          exact absurd rfl hkind
        · exact absurd (kind_of_collect h) hkind
      · obtain ⟨item, hitem, hw⟩ := Option.bind_eq_some_iff.mp h
        obtain ⟨i, -, hi⟩ := Option.bind_eq_some_iff.mp hitem
        exact mem_inner_array.mpr ⟨item, List.mem_of_getElem? hi, htail item hw⟩
      · exact absurd (kind_of_collect h) hkind

/-- Nothing is found in a hash without fields. -/
theorem inner_ne_nil_of_find {fields : Hash} {p : Path} (h : (hash fields).find p = some w)
    (hp : p ≠ []) : (hash fields).inner ≠ [] := by
  obtain ⟨head, tail, rfl⟩ := List.exists_cons_of_ne_nil hp
  cases fields with
  | nil => cases h
  | cons field rest => exact List.cons_ne_nil _ _

end Value

namespace Hash

open Value

/-! ## The calls that copying makes -/

/-- The copying of a value to a path ends after so many calls with this result. A string is added at
the end of the path, an array is passed over. A hash is added to a field. If the path goes on, what
the rest of the path leads to in the hash is copied to the same path instead. -/
inductive Copies (p : Path) (target : Hash) : Value → Nat → Edited Hash → Prop
  | string (s : String) : Copies p target (.string s) 1 (target.appendPath p (.string s))
  | array (items : List Value) : Copies p target (.array items) 1 ⟨target, none⟩
  | field {name : String} (source : Hash) : p = [name] →
      Copies p target (.hash source) 1 ⟨target.append name (.hash source), none⟩
  | absent {source : Hash} : 1 < p.length → source.findPath p.tail = none →
      Copies p target (.hash source) 1 ⟨target, none⟩
  | inside {source : Hash} {found : Value} {n : Nat} {r : Edited Hash} : 1 < p.length →
      source.findPath p.tail = some found → Copies p target found n r →
      Copies p target (.hash source) (n + 1) r

variable {p : Path} {target : Hash} {v : Value}

/-- The calls are determined by the value. -/
theorem Copies.unique {n m : Nat} {r s : Edited Hash} (h : Copies p target v n r)
    (h' : Copies p target v m s) : m = n ∧ s = r := by
  induction h generalizing m s with
  | string =>
    cases h'
    exact ⟨rfl, rfl⟩
  | array =>
    cases h'
    exact ⟨rfl, rfl⟩
  | field source hp =>
    subst hp
    cases h' with
    | field _ hname =>
      cases hname
      exact ⟨rfl, rfl⟩
    | absent hlong => exact absurd hlong (Nat.lt_irrefl 1)
    | inside hlong => exact absurd hlong (Nat.lt_irrefl 1)
  | absent hlong hnone =>
    cases h' with
    | field _ hname =>
      subst hname
      exact absurd hlong (Nat.lt_irrefl 1)
    | absent => exact ⟨rfl, rfl⟩
    | inside _ hfound => cases hnone.symm.trans hfound
  | inside hlong hfound _ ih =>
    cases h' with
    | field _ hname =>
      subst hname
      exact absurd hlong (Nat.lt_irrefl 1)
    | absent _ hnone => cases hnone.symm.trans hfound
    | inside _ hfound' hrest =>
      cases hfound.symm.trans hfound'
      obtain ⟨rfl, rfl⟩ := ih hrest
      exact ⟨rfl, rfl⟩

/-- What is found in a hash is copied in its place. -/
theorem copyValue_hash (hp : 1 < p.length) (source target : Hash) :
    copyValue p (.hash source) target =
      match source.findPath p.tail with
      | some found => copyValue p found target
      | none => ⟨target, none⟩ := by
  match p, hp with
  | head :: next :: tail, _ =>
    rw [copyValue, copyInside, findPath, List.tail_cons]
    generalize (Value.hash source).find (next :: tail) = found
    match found with
    | none => rfl
    | some (.string s) => rfl
    | some (.array items) => rfl
    | some (.hash fields) => rfl

/-- The calls come to an end, and there are at most as many as there are values in the tree. -/
theorem exists_copies (hp : p ≠ []) (target : Hash) (v : Value) :
    ∃ n ≤ v.inner.length + 1, Copies p target v n (copyValue p v target) := by
  -- the path stays the same, so the induction is on what is inside of the value
  induction hsize : v.inner.length using Nat.strongRecOn generalizing v with
  | ind size ih =>
    subst hsize
    cases v with
    | string s => exact ⟨1, Nat.le_add_left _ _, .string s⟩
    | array items => exact ⟨1, Nat.le_add_left _ _, .array items⟩
    | hash source =>
      obtain ⟨head, tail, rfl⟩ := List.exists_cons_of_ne_nil hp
      by_cases hnil : tail = []
      · subst hnil
        exact ⟨1, Nat.le_add_left _ _, .field source rfl⟩
      have hlong : 1 < (head :: tail).length :=
        Nat.succ_lt_succ (List.length_pos_of_ne_nil hnil)
      rw [copyValue_hash hlong]
      cases hfound : Hash.findPath source (head :: tail).tail with
      | none => exact ⟨1, Nat.le_add_left _ _, .absent hlong hfound⟩
      | some found =>
        have hpos : 0 < (Value.hash source).inner.length :=
          List.length_pos_of_ne_nil (inner_ne_nil_of_find hfound hnil)
        by_cases hkind : found.kind = .array
        · cases found with
          | array items => exact ⟨2, Nat.succ_le_succ hpos, .inside hlong hfound (.array items)⟩
          | string | hash => cases hkind
        · have hlt : found.inner.length < (Value.hash source).inner.length :=
            length_inner_lt (mem_inner_of_find hfound hkind hnil)
          obtain ⟨n, hn, hcopies⟩ := ih _ hlt found rfl
          exact ⟨n + 1, by omega, .inside hlong hfound hcopies⟩

/-- A hash that a path with a segment leads to in another is one of the values inside of that, and
there are fewer values inside of it. So the copying of any value to any path ends, with one result,
after at most as many calls as there are values in the tree. -/
theorem copyValue_ends :
    (∀ (source found : Hash) (p : Path), p ≠ [] → source.findPath p = some (.hash found) →
      .hash found ∈ (Value.hash source).inner ∧
        (Value.hash found).inner.length < (Value.hash source).inner.length) ∧
    ∀ (p : Path) (v : Value) (target : Hash), p ≠ [] →
      ∃ n ≤ v.inner.length + 1, ∀ m r,
        Copies p target v m r ↔ m = n ∧ r = copyValue p v target := by
  constructor
  · intro source found p hp hfound
    have hmem : .hash found ∈ (Value.hash source).inner :=
      mem_inner_of_find hfound (by simp [kind]) hp
    exact ⟨hmem, length_inner_lt hmem⟩
  · intro p v target hp
    obtain ⟨n, hn, hcopies⟩ := exists_copies hp target v
    refine ⟨n, hn, fun m r => ⟨hcopies.unique, ?_⟩⟩
    rintro ⟨rfl, rfl⟩
    exact hcopies

/-- The item at a position of what a wildcard puts together holds a hash, which is inside. Hashes
that are one in the other are all searched for the same field before a string is copied. -/
theorem copyValue_ends_namesSample :
    let works : Hash := [("w1", .hash [("part", .string "i")]),
      ("w2", .hash [("part", .hash [("n", .string "x")])])]
    let first : Hash := [("name", .string "max")]
    let second : Hash := [("id", .string "7"), ("name", .hash first)]
    let third : Hash := [("name", .hash second)]
    let target : Hash := [("id", .string "8")]
    (Value.hash [("n", .string "x")]).inner.length < (Value.hash works).inner.length ∧
      (copyValue ["author", "name"] (.hash third) target).value =
        [("id", .string "8"), ("author", .hash [("name", .string "max")])] := by
  intro works first second third target
  have hfound : works.findPath ["w*", "2", "part"] = some (.hash [("n", .string "x")]) := by
    decide +kernel
  refine ⟨(copyValue_ends.1 works _ _ (by decide) hfound).2, ?_⟩
  have hthird : third.findPath ["name"] = some (.hash second) := by decide +kernel
  have hsecond : second.findPath ["name"] = some (.hash first) := by decide +kernel
  have hfirst : first.findPath ["name"] = some (.string "max") := by decide +kernel
  have hcalls : Copies ["author", "name"] target (.hash third) 4
      (target.appendPath ["author", "name"] (.string "max")) :=
    .inside (by decide) hthird <| .inside (by decide) hsecond <| .inside (by decide) hfirst <|
      .string "max"
  obtain ⟨n, -, hcopies⟩ := copyValue_ends.2 ["author", "name"] (.hash third) target (by decide)
  rw [← ((hcopies 4 _).mp hcalls).2]
  decide +kernel

end Hash

end RecordFix
