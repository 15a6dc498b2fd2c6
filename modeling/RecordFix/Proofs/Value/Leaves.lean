import RecordFix.Value.Basic

/-!
# The leaves of a value

The strings of a tree in the order in which it is written down, those in hashes among them. An
operation that moves values around is judged by what becomes of these strings: some are left, and
some may be lost (`Parts`).
-/

namespace RecordFix

namespace Value

mutual

/-- The strings at the leaves of the tree, in order. -/
def leaves : Value → List String
  | .string s => [s]
  | .array items => leavesOfItems items
  | .hash fields => leavesOfFields fields

/-- The strings at the leaves of items, in order. -/
def leavesOfItems : List Value → List String
  | [] => []
  | v :: rest => v.leaves ++ leavesOfItems rest

/-- The strings at the leaves of fields, in order. -/
def leavesOfFields : List (String × Value) → List String
  | [] => []
  | (_, v) :: rest => v.leaves ++ leavesOfFields rest

end

theorem leavesOfItems_eq_flatMap (items : List Value) :
    leavesOfItems items = items.flatMap leaves := by
  induction items with
  | nil => rfl
  | cons v rest ih => rw [leavesOfItems, List.flatMap_cons, ih]

theorem leavesOfFields_eq_flatMap (fields : Hash) :
    leavesOfFields fields = fields.flatMap fun field => field.2.leaves := by
  induction fields with
  | nil => rfl
  | cons field rest ih => rw [leavesOfFields, List.flatMap_cons, ih]

theorem leavesOfItems_append (items others : List Value) :
    leavesOfItems (items ++ others) = leavesOfItems items ++ leavesOfItems others := by
  simp only [leavesOfItems_eq_flatMap, List.flatMap_append]

theorem leavesOfItems_toList (v : Value) : leavesOfItems v.toList = v.leaves := by
  cases v with
  | array items => rw [leaves, toList]
  | string | hash => exact List.append_nil _

end Value

/-! ## Strings that are left and strings that are lost -/

/-- The strings are those that are left together with those that are lost. -/
def Parts (before left lost : List String) : Prop := before.Perm (left ++ lost)

namespace Parts

variable {before left lost : List String}

theorem refl (strings : List String) : Parts strings strings [] := by
  rw [Parts, List.append_nil]

theorem append {before' left' lost' : List String} (h : Parts before left lost)
    (h' : Parts before' left' lost') :
    Parts (before ++ before') (left ++ left') (lost ++ lost') := by
  have hmiddle : ((left ++ lost) ++ (left' ++ lost')).Perm
      ((left ++ left') ++ (lost ++ lost')) := by
    simp only [List.append_assoc]
    exact List.Perm.append_left left (List.perm_append_comm_assoc lost left' lost')
  exact (List.Perm.append h h').trans hmiddle

theorem append_left (first : List String) (h : Parts before left lost) :
    Parts (first ++ before) (first ++ left) lost := (refl first).append h

/-- More strings are lost. -/
theorem lose (first : List String) (h : Parts before left lost) :
    Parts (first ++ before) left (first ++ lost) :=
  have hfirst : Parts first [] first := List.Perm.refl first
  hfirst.append h

theorem flatMap {α : Type} {leavesOf leftOf lostOf : α → List String} {xs : List α}
    (h : ∀ x ∈ xs, Parts (leavesOf x) (leftOf x) (lostOf x)) :
    Parts (xs.flatMap leavesOf) (xs.flatMap leftOf) (xs.flatMap lostOf) := by
  induction xs with
  | nil => exact refl []
  | cons x rest ih =>
    obtain ⟨hx, hrest⟩ := List.forall_mem_cons.mp h
    simp only [List.flatMap_cons]
    exact hx.append (ih hrest)

/-- As many strings are left as there were just if none is lost. -/
theorem perm_iff (h : Parts before left lost) : before.Perm left ↔ lost = [] := by
  constructor
  · intro hsame
    have hlength := h.length_eq
    rw [List.length_append, hsame.length_eq] at hlength
    exact List.eq_nil_of_length_eq_zero (Nat.left_eq_add.mp hlength)
  · rintro rfl
    rwa [Parts, List.append_nil] at h

end Parts

end RecordFix
