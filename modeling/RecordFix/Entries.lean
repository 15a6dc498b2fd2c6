/-!
# Ordered entries

Entries associate names with values and keep the order in which names were first put. A name occurs
once as long as entries are built by `put`.
-/

namespace RecordFix

/-- Names with values in the order of the names' first occurrence. -/
abbrev Entries (α : Type) := List (String × α)

namespace Entries

variable {α : Type}

/-- The names in order. -/
def names (es : Entries α) : List String := es.map (·.1)

/-- The values in order. -/
def values (es : Entries α) : List α := es.map (·.2)

/-- The value of a name. -/
def get? (es : Entries α) (name : String) : Option α := es.lookup name

/-- Whether the name occurs. -/
def has (es : Entries α) (name : String) : Bool := es.any (·.1 == name)

/-- Sets the value of a name, which keeps its place if it occurs and comes last if not. -/
def put (es : Entries α) (name : String) (value : α) : Entries α :=
  match es with
  | [] => [(name, value)]
  | (n, v) :: rest =>
    if n = name then (name, value) :: rest else (n, v) :: Entries.put rest name value

/-- Removes a name. -/
def erase (es : Entries α) (name : String) : Entries α := es.filter (·.1 != name)

/-- Entries from a list in which later values of a name replace earlier ones. -/
def ofList (es : List (String × α)) : Entries α :=
  es.foldl (fun acc e => Entries.put acc e.1 e.2) []

/-- Every name occurs once. -/
def Unique (es : Entries α) : Prop := (names es).Nodup

instance (es : Entries α) : Decidable es.Unique := inferInstanceAs (Decidable (names es).Nodup)

/-! ## Looking up and putting -/

@[simp] theorem get?_nil (name : String) : get? ([] : Entries α) name = none := rfl

theorem get?_cons (n name : String) (v : α) (rest : Entries α) :
    get? ((n, v) :: rest) name = if n = name then some v else get? rest name := by
  rw [get?, List.lookup_cons]
  by_cases h : n = name
  · simp [h]
  · simp [h, beq_eq_false_iff_ne.mpr (Ne.symm h), get?]

theorem get?_put_self (es : Entries α) (name : String) (v : α) :
    get? (put es name v) name = some v := by
  induction es with
  | nil => simp [put, get?_cons]
  | cons e rest ih =>
    obtain ⟨n, w⟩ := e
    by_cases h : n = name
    · simp [put, h, get?_cons]
    · simpa [put, h, get?_cons] using ih

theorem get?_put_of_ne {n name : String} (h : n ≠ name) (es : Entries α) (v : α) :
    get? (put es name v) n = get? es n := by
  induction es with
  | nil => simp [put, get?_cons, h.symm]
  | cons e rest ih =>
    obtain ⟨m, w⟩ := e
    by_cases hm : m = name
    · simp [put, hm, get?_cons, h.symm]
    · simp [put, hm, get?_cons, ih]

/-- Putting what a name has already changes nothing. -/
theorem put_of_get?_eq {es : Entries α} {name : String} {v : α} (h : get? es name = some v) :
    put es name v = es := by
  induction es with
  | nil => simp at h
  | cons e rest ih =>
    obtain ⟨n, w⟩ := e
    rw [get?_cons] at h
    by_cases hn : n = name
    · simp_all [put]
    · simp [put, hn, ih (by simpa [hn] using h)]

theorem put_put (es : Entries α) (name : String) (v w : α) :
    put (put es name v) name w = put es name w := by
  induction es with
  | nil => simp [put]
  | cons e rest ih =>
    obtain ⟨n, u⟩ := e
    by_cases h : n = name
    · simp [put, h]
    · simp [put, h, ih]

/-- A name that occurs keeps its place. -/
theorem names_put_of_get?_eq {es : Entries α} {name : String} {v : α}
    (h : get? es name = some v) (w : α) : names (put es name w) = names es := by
  induction es with
  | nil => simp at h
  | cons e rest ih =>
    obtain ⟨n, u⟩ := e
    rw [get?_cons] at h
    by_cases hn : n = name
    · simp [put, hn, names]
    · simpa [put, hn, names] using ih (by simpa [hn] using h)

theorem mem_of_get?_eq {es : Entries α} {name : String} {v : α} (h : get? es name = some v) :
    (name, v) ∈ es := by
  induction es with
  | nil => simp at h
  | cons e rest ih =>
    obtain ⟨n, u⟩ := e
    rw [get?_cons] at h
    by_cases hn : n = name
    · simp_all
    · exact List.mem_cons_of_mem _ (ih (by simpa [hn] using h))

theorem has_eq_isSome_get? (es : Entries α) (name : String) :
    has es name = (get? es name).isSome := by
  induction es with
  | nil => rfl
  | cons e rest ih =>
    obtain ⟨n, u⟩ := e
    rw [get?_cons, has, List.any_cons, ← has, ih]
    by_cases hn : n = name <;> simp [hn]

/-- A name that does not occur is put last. -/
theorem put_of_notMem_names {es : Entries α} {name : String} (h : name ∉ names es) (v : α) :
    put es name v = es ++ [(name, v)] := by
  induction es with
  | nil => rfl
  | cons e rest ih =>
    obtain ⟨n, w⟩ := e
    have hne : ¬ n = name := fun hn => h (hn ▸ List.mem_cons_self)
    have hrest : name ∉ names rest := fun hmem => h (List.mem_cons_of_mem n hmem)
    rw [put, if_neg hne, ih hrest, List.cons_append]

theorem get?_eq_none_iff {es : Entries α} {name : String} :
    get? es name = none ↔ name ∉ names es := by
  induction es with
  | nil => simp [names]
  | cons e rest ih =>
    obtain ⟨n, w⟩ := e
    rw [get?_cons]
    by_cases hn : n = name
    · simp [hn, names]
    · simpa [hn, Ne.symm hn, names] using ih

/-- Putting keeps the names in order, and a name that did not occur comes last. -/
theorem names_put (es : Entries α) (name : String) (v : α) :
    names (put es name v) = names es ∨
      name ∉ names es ∧ names (put es name v) = names es ++ [name] := by
  cases h : get? es name with
  | some w => exact .inl (names_put_of_get?_eq h v)
  | none =>
    have hnew : name ∉ names es := get?_eq_none_iff.mp h
    refine .inr ⟨hnew, ?_⟩
    rw [put_of_notMem_names hnew, names, List.map_append]
    rfl

theorem names_subset_names_put (es : Entries α) (name : String) (v : α) :
    names es ⊆ names (put es name v) := by
  rcases names_put es name v with hsame | ⟨-, hlast⟩
  · rw [hsame]
    exact List.Subset.refl _
  · rw [hlast]
    exact List.subset_append_left _ _

theorem mem_names_of_mem_names_put {es : Entries α} {name other : String} {v : α}
    (h : other ∈ names (put es name v)) : other ∈ names es ∨ other = name := by
  rcases names_put es name v with hsame | ⟨-, hlast⟩
  · exact .inl (hsame ▸ h)
  · rw [hlast] at h
    exact (List.mem_append.mp h).imp_right List.mem_singleton.mp

theorem Unique.put {es : Entries α} (h : es.Unique) (name : String) (v : α) :
    (Entries.put es name v).Unique := by
  unfold Unique at h ⊢
  rcases names_put es name v with hsame | ⟨hnew, hlast⟩
  · rwa [hsame]
  · rw [hlast]
    refine List.nodup_append.mpr ⟨h, by simp, fun a ha b hb hab => hnew ?_⟩
    rwa [← List.mem_singleton.mp hb, ← hab]

/-- Entries with each name once are the entries of the list that they are. -/
theorem ofList_of_unique {es : Entries α} (h : es.Unique) : ofList es = es := by
  have hput (acc rest : Entries α) (hunique : (acc ++ rest).Unique) :
      rest.foldl (fun acc e => put acc e.1 e.2) acc = acc ++ rest := by
    induction rest generalizing acc with
    | nil => rw [List.append_nil]; rfl
    | cons e rest ih =>
      have hnew : e.1 ∉ names acc := by
        rw [Unique, names, List.map_append, List.map_cons] at hunique
        exact fun hmem =>
          (List.nodup_append.mp hunique).2.2 e.1 hmem e.1 List.mem_cons_self rfl
      rw [List.foldl_cons, put_of_notMem_names hnew, ih _ (by rwa [List.append_assoc]),
        List.append_assoc]
      rfl
  exact hput [] es h

/-- In entries with each name once, the entries of a name are what it is looked up to be. -/
theorem filter_eq_get? {es : Entries α} (h : es.Unique) (name : String) :
    (es.filter fun e => name == e.1) = (get? es name).toList.map (name, ·) := by
  induction es with
  | nil => rfl
  | cons e rest ih =>
    obtain ⟨n, v⟩ := e
    have hnodup : n ∉ names rest ∧ (names rest).Nodup := List.nodup_cons.mp h
    rw [get?_cons]
    by_cases hn : n = name
    · subst hn
      have hrest : (rest.filter fun e => n == e.1) = [] := by
        refine List.filter_eq_nil_iff.mpr fun e he heq => hnodup.1 ?_
        rw [beq_iff_eq.mp heq]
        exact List.mem_map_of_mem he
      simp [hrest]
    · rw [List.filter_cons_of_neg (by simpa using Ne.symm hn), if_neg hn]
      exact ih hnodup.2

/-! ## Erasing -/

theorem erase_cons (n name : String) (v : α) (rest : Entries α) :
    erase ((n, v) :: rest) name =
      if n = name then erase rest name else (n, v) :: erase rest name := by
  by_cases h : n = name <;> simp [erase, h]

theorem get?_erase_self (es : Entries α) (name : String) : get? (erase es name) name = none := by
  rw [get?_eq_none_iff, names, erase]
  simp

theorem get?_erase_of_ne {n name : String} (h : n ≠ name) (es : Entries α) :
    get? (erase es name) n = get? es n := by
  induction es with
  | nil => rfl
  | cons e rest ih =>
    obtain ⟨m, w⟩ := e
    rw [erase_cons]
    by_cases hm : m = name
    · simp [hm, get?_cons, h.symm, ih]
    · simp [hm, get?_cons, ih]

theorem erase_of_get?_eq_none {es : Entries α} {name : String} (h : get? es name = none) :
    erase es name = es := by
  refine List.filter_eq_self.mpr fun e he => bne_iff_ne.mpr fun heq => ?_
  exact get?_eq_none_iff.mp h (heq ▸ List.mem_map_of_mem he)

/-- Erasing a name that has been put also erases what the name stood for before. -/
theorem erase_put (es : Entries α) (name : String) (v : α) :
    erase (put es name v) name = erase es name := by
  induction es with
  | nil => simp [put, erase_cons]
  | cons e rest ih =>
    obtain ⟨n, w⟩ := e
    by_cases hn : n = name
    · simp [put, hn, erase_cons]
    · simp [put, hn, erase_cons, ih]

theorem erase_erase (es : Entries α) (name : String) :
    erase (erase es name) name = erase es name :=
  erase_of_get?_eq_none (get?_erase_self es name)

end Entries

end RecordFix
