import RecordFix.Proofs.Path.Direct

/-!
# Writing and reading at one place

A path has a place in a value if each of its segments means one field, one item, or a field of a
hash that writing makes (`Value.HasPlace`). At a place, writing and reading are the two sides of a
lens (`Value.LensAt`): what has been written is read, the second of two writes wins, and writing
what is read changes nothing, not even the order of fields. The laws are shown for one segment of
each kind and carried along the path; `Hash.setPath_lawful` says them of whole paths into a hash.
-/

namespace RecordFix

namespace Value

/-- The path has a place in the value. In a hash that exists its segments are names without
wildcards, in an array that exists they mean an item that is there, and in a hash that writing makes
they are names without wildcards that mean no place in an array. -/
inductive HasPlace : Path → Value → Prop
  | field {fields : Hash} {name : String} (hname : (FieldPattern.ofString name).isLiteral) :
      HasPlace [name] (.hash fields)
  | item {items : List Value} {segment : String} {i : Nat}
      (hi : Path.index? segment items.length = some i) : HasPlace [segment] (.array items)
  | inField {fields : Hash} {name : String} {rest : Path} {child : Value}
      (hname : (FieldPattern.ofString name).isLiteral)
      (hchild : Entries.get? fields name = some child) (hrest : HasPlace rest child) :
      HasPlace (name :: rest) (.hash fields)
  | inItem {items : List Value} {segment : String} {i : Nat} {rest : Path} {child : Value}
      (hi : Path.index? segment items.length = some i) (hchild : items[i]? = some child)
      (hrest : HasPlace rest child) : HasPlace (segment :: rest) (.array items)
  | inNewField {fields : Hash} {name next : String} {tail : Path}
      (hname : (FieldPattern.ofString name).isLiteral)
      (hmarker : Hash.arrayMarker.toList.isSuffixOf name.toList = false)
      (hnew : Entries.get? fields name = none) (hnext : Path.Step.ofSegment next = .field)
      (hrest : HasPlace (next :: tail) (.hash [])) : HasPlace (name :: next :: tail) (.hash fields)

theorem HasPlace.ne_nil {p : Path} {v : Value} (h : HasPlace p v) : p ≠ [] := by
  rintro rfl
  cases h

/-- Writing in place of what is there and reading obey the laws of a lens. -/
structure LensAt (p : Path) (t : Value) : Prop where
  set_succeeds : ∀ v, (insert .replace v p t).error = none
  find_set : ∀ v, find p (insert .replace v p t).value = some v
  set_set : ∀ v w, insert .replace w p (insert .replace v p t).value = insert .replace w p t
  set_find : ∀ u, find p t = some u → insert .replace u p t = ⟨t, none⟩

end Value

/-! ## A segment without wildcards on a hash -/

namespace Hash

variable {fields : Hash} {name : String}

theorem hasMatch_of_isLiteral (hname : (FieldPattern.ofString name).isLiteral) :
    fields.hasMatch name = (Entries.get? fields name).isSome := by
  rw [hasMatch_of_exactAmong (FieldPattern.exactAmong_of_isLiteral hname _),
    Entries.has_eq_isSome_get?]

end Hash

namespace Value

variable {fields : Hash} {name : String} {child : Value} {edit : Value → Edited Value}

theorem editFields_of_notMem (h : name ∉ Entries.names fields) :
    editFields (.literal name) edit fields = ⟨fields, none⟩ := by
  induction fields with
  | nil => rfl
  | cons field rest ih =>
    obtain ⟨other, v⟩ := field
    have hne : name ≠ other := fun heq => h (heq ▸ List.mem_cons_self)
    have hrest : name ∉ Entries.names rest := fun hmem => h (List.mem_cons_of_mem other hmem)
    rw [editFields, if_neg (by simpa [FieldPattern.holds] using hne), ih hrest]
    rfl

theorem editFields_of_get? (hu : Entries.Unique fields)
    (hchild : Entries.get? fields name = some child) :
    editFields (.literal name) edit fields = (edit child).map (Entries.put fields name) := by
  induction fields with
  | nil => cases hchild
  | cons field rest ih =>
    obtain ⟨other, v⟩ := field
    have hnodup : other ∉ Entries.names rest ∧ (Entries.names rest).Nodup := List.nodup_cons.mp hu
    rw [Entries.get?_cons] at hchild
    by_cases hne : other = name
    · subst hne
      obtain rfl : v = child := by simpa using hchild
      rw [editFields, if_pos (by simp [FieldPattern.holds]), editFields_of_notMem hnodup.1]
      cases herror : (edit v).error <;> simp [Edited.map, Entries.put, herror]
    · rw [if_neg hne] at hchild
      rw [editFields, if_neg (by simpa [FieldPattern.holds] using Ne.symm hne),
        ih hnodup.2 hchild, Edited.map_map]
      simp only [Entries.put, if_neg hne]

theorem find_field {rest : Path} (hu : Entries.Unique fields)
    (hname : (FieldPattern.ofString name).isLiteral) :
    find (name :: rest) (.hash fields) = (Entries.get? fields name).bind (find rest) := by
  rw [find, findStep, Hash.find_of_isLiteral hu hname]

theorem insert_inField {mode : WriteMode} {v : Value} {rest : Path} (hu : Entries.Unique fields)
    (hname : (FieldPattern.ofString name).isLiteral)
    (hchild : Entries.get? fields name = some child) (hrest : rest ≠ []) :
    insert mode v (name :: rest) (.hash fields) =
      (insert mode v rest child).map fun made => .hash (Entries.put fields name made) := by
  cases rest with
  | nil => exact absurd rfl hrest
  | cons next tail =>
    have hmatch : Hash.hasMatch fields name = true := by
      rw [Hash.hasMatch_of_isLiteral hname, hchild]
      rfl
    rw [insert, insertFields, if_pos hmatch, FieldPattern.ofString_of_isLiteral hname,
      editFields_of_get? hu hchild, Edited.map_map]

theorem newContainer_of_field {next : String} {tail : Path}
    (hmarker : Hash.arrayMarker.toList.isSuffixOf name.toList = false)
    (hnext : Path.Step.ofSegment next = .field) :
    newContainer name (next :: tail) = .ok (.hash []) := by
  simp [newContainer, hnext, hmarker]

theorem insert_inNewField {mode : WriteMode} {v : Value} {next : String} {tail : Path}
    (hname : (FieldPattern.ofString name).isLiteral)
    (hmarker : Hash.arrayMarker.toList.isSuffixOf name.toList = false)
    (hnew : Entries.get? fields name = none) (hnext : Path.Step.ofSegment next = .field) :
    insert mode v (name :: next :: tail) (.hash fields) =
      (insert mode v (next :: tail) (.hash [])).map fun made =>
        .hash (Entries.put fields name made) := by
  have hmatch : ¬ Hash.hasMatch fields name = true := by
    rw [Hash.hasMatch_of_isLiteral hname, hnew]
    exact Bool.false_ne_true
  rw [insert, insertFields, if_neg hmatch, newContainer_of_field hmarker hnext, Edited.map_map]

theorem lensAt_field (hu : Entries.Unique fields)
    (hname : (FieldPattern.ofString name).isLiteral) : LensAt [name] (.hash fields) where
  set_succeeds v := rfl
  find_set v := by
    change find [name] (.hash (Entries.put fields name v)) = some v
    rw [find_field (hu.put name v) hname, Entries.get?_put_self]
    rfl
  set_set v w := by
    change (⟨.hash (Entries.put (Entries.put fields name v) name w), none⟩ : Edited Value) =
      ⟨.hash (Entries.put fields name w), none⟩
    rw [Entries.put_put]
  set_find u hu' := by
    rw [find_field hu hname] at hu'
    obtain ⟨child, hchild, hfound⟩ := Option.bind_eq_some_iff.mp hu'
    obtain rfl : child = u := Option.some.inj hfound
    change (⟨.hash (Entries.put fields name child), none⟩ : Edited Value) = ⟨.hash fields, none⟩
    rw [Entries.put_of_get?_eq hchild]

/-- The laws hold in front of a place if writing there is writing behind the segment, into what the
field holds or into a value that holds nothing at the place. -/
theorem LensAt.behindField {rest : Path} (hu : Entries.Unique fields)
    (hname : (FieldPattern.ofString name).isLiteral) (hrest : rest ≠ [])
    (hinsert : ∀ v, insert .replace v (name :: rest) (.hash fields) =
      (insert .replace v rest child).map fun made => .hash (Entries.put fields name made))
    (hchild : ∀ held ∈ Entries.get? fields name, held = child) (h : LensAt rest child) :
    LensAt (name :: rest) (.hash fields) where
  set_succeeds v := by
    rw [hinsert v, Edited.map_error]
    exact h.set_succeeds v
  find_set v := by
    rw [hinsert v, Edited.map_value, find_field (hu.put _ _) hname, Entries.get?_put_self]
    exact h.find_set v
  set_set v w := by
    rw [hinsert v, hinsert w, Edited.map_value,
      insert_inField (hu.put _ _) hname (Entries.get?_put_self _ _ _) hrest, h.set_set]
    simp only [Entries.put_put]
  set_find u hfound := by
    rw [find_field hu hname] at hfound
    obtain ⟨held, hheld, hfound⟩ := Option.bind_eq_some_iff.mp hfound
    obtain rfl := hchild held hheld
    rw [hinsert u, h.set_find u hfound, Edited.map]
    simp only [Entries.put_of_get?_eq hheld]

end Value

/-! ## A position in an array -/

namespace Path

theorem Position.index?_lt {p : Position} {length i : Nat} (h : p.index? length = some i) :
    i < length := by
  cases p with
  | first | last =>
    simp only [index?] at h
    split at h <;> grind
  | number n =>
    cases n with
    | zero => cases h
    | succ n =>
      simp only [index?] at h
      split at h <;> grind

end Path

namespace Value

variable {items : List Value} {segment : String} {i : Nat} {rest : Path} {child : Value}

theorem set_of_getElem?_eq (hchild : items[i]? = some child) : items.set i child = items := by
  obtain ⟨hlt, rfl⟩ := List.getElem?_eq_some_iff.mp hchild
  exact List.set_getElem_self hlt

theorem insert_item {mode : WriteMode} {v : Value}
    (hi : Path.index? segment items.length = some i) :
    insert mode v [segment] (.array items) = ⟨.array (items.set i v), none⟩ := by
  obtain ⟨q, hstep, hq⟩ := Path.exists_position_of_index? hi
  rw [insert, writeItem, hstep]
  simp only [hq]
  rfl

theorem insert_inItem {mode : WriteMode} {v : Value}
    (hi : Path.index? segment items.length = some i) (hchild : items[i]? = some child)
    (hrest : rest ≠ []) :
    insert mode v (segment :: rest) (.array items) =
      (insert mode v rest child).map fun made => .array (items.set i made) := by
  cases rest with
  | nil => exact absurd rfl hrest
  | cons next tail =>
    obtain ⟨q, hstep, hq⟩ := Path.exists_position_of_index? hi
    rw [insert, insertItems, hstep]
    simp only [hq, hchild]
    rfl

theorem lensAt_item (hi : Path.index? segment items.length = some i) :
    LensAt [segment] (.array items) where
  set_succeeds v := by rw [insert_item hi]
  find_set v := by
    obtain ⟨q, -, hq⟩ := Path.exists_position_of_index? hi
    rw [insert_item hi, find_item ((List.length_set ..).symm ▸ hi),
      List.getElem?_set_self (Path.Position.index?_lt hq)]
    rfl
  set_set v w := by
    rw [insert_item hi, insert_item ((List.length_set ..).symm ▸ hi), insert_item hi,
      List.set_set]
  set_find u hfound := by
    rw [find_item hi] at hfound
    obtain ⟨child, hchild, hfound⟩ := Option.bind_eq_some_iff.mp hfound
    obtain rfl : child = u := Option.some.inj hfound
    rw [insert_item hi, set_of_getElem?_eq hchild]

theorem LensAt.inItem (hi : Path.index? segment items.length = some i)
    (hchild : items[i]? = some child) (hrest : rest ≠ []) (h : LensAt rest child) :
    LensAt (segment :: rest) (.array items) where
  set_succeeds v := by
    rw [insert_inItem hi hchild hrest, Edited.map_error]
    exact h.set_succeeds v
  find_set v := by
    have hlt : i < items.length := (List.getElem?_eq_some_iff.mp hchild).1
    rw [insert_inItem hi hchild hrest, Edited.map_value,
      find_item ((List.length_set ..).symm ▸ hi), List.getElem?_set_self hlt]
    exact h.find_set v
  set_set v w := by
    have hlt : i < items.length := (List.getElem?_eq_some_iff.mp hchild).1
    rw [insert_inItem hi hchild hrest, Edited.map_value,
      insert_inItem ((List.length_set ..).symm ▸ hi) (List.getElem?_set_self hlt) hrest,
      h.set_set, insert_inItem hi hchild hrest]
    simp only [List.set_set]
  set_find u hfound := by
    rw [find_item hi, hchild] at hfound
    rw [insert_inItem hi hchild hrest, h.set_find u hfound, Edited.map]
    simp only [set_of_getElem?_eq hchild]

/-! ## Whole paths -/

theorem HasPlace.lensAt {p : Path} {t : Value} (h : HasPlace p t) (ht : t.Distinct) :
    LensAt p t := by
  induction h with
  | field hname => exact lensAt_field (distinct_hash.mp ht).1 hname
  | item hi => exact lensAt_item hi
  | inField hname hchild hrest ih =>
    obtain ⟨hu, hfields⟩ := distinct_hash.mp ht
    refine (ih (hfields _ (Entries.mem_of_get?_eq hchild))).behindField hu hname hrest.ne_nil
      (fun _ => insert_inField hu hname hchild hrest.ne_nil) fun held hheld => ?_
    exact Option.some.inj (hheld.symm.trans hchild)
  | inItem hi hchild hrest ih =>
    exact (ih (distinct_array.mp ht _ (List.mem_of_getElem? hchild))).inItem hi hchild
      hrest.ne_nil
  | inNewField hname hmarker hnew hnext hrest ih =>
    obtain ⟨hu, -⟩ := distinct_hash.mp ht
    have hempty : (hash []).Distinct := distinct_hash.mpr ⟨List.nodup_nil, nofun⟩
    refine (ih hempty).behindField hu hname hrest.ne_nil
      (fun _ => insert_inNewField hname hmarker hnew hnext) fun held hheld => ?_
    rw [hnew] at hheld
    cases hheld

end Value

namespace Hash

theorem eq_of_map_hash_eq {left right : Edited Hash}
    (h : left.map Value.hash = right.map Value.hash) : left = right := by
  obtain ⟨fields, error⟩ := left
  obtain ⟨others, error'⟩ := right
  simp only [Edited.map, Edited.mk.injEq, Value.hash.injEq] at h
  rw [h.1, h.2]

/-- At a path that has a place in a hash, what has been set is found, the second of two values that
are set wins, and setting what is found leaves the hash as it is, with its fields in their order. -/
theorem setPath_lawful {h : Hash} {p : Path} (hh : (Value.hash h).Distinct)
    (hp : Value.HasPlace p (.hash h)) (v w : Value) :
    (h.setPath p v).error = none ∧ (h.setPath p v).value.findPath p = some v ∧
      (h.setPath p v).value.setPath p w = h.setPath p w ∧
        ∀ u, h.findPath p = some u → h.setPath p u = ⟨h, none⟩ := by
  have hlens := hp.lensAt hh
  have hset (g : Hash) (u : Value) :
      (g.setPath p u).map .hash = Value.insert .replace u p (.hash g) :=
    map_hash_insert g .replace p u
  have hleft : Value.hash (h.setPath p v).value = (Value.insert .replace v p (.hash h)).value :=
    congrArg Edited.value (hset h v)
  refine ⟨?_, ?_, eq_of_map_hash_eq ?_, fun u hu => eq_of_map_hash_eq ?_⟩
  · exact (congrArg Edited.error (hset h v)).trans (hlens.set_succeeds v)
  · rw [findPath, hleft, hlens.find_set]
  · rw [hset, hset, hleft, hlens.set_set]
  · rw [hset, hlens.set_find u hu]
    rfl

/-- A hash with an array of hashes. -/
def partsSample : Hash :=
  [("parts", .array [.hash [("name", .string "a")]]), ("id", .string "1")]

/-- A path through a field, an item and a hash that the write makes. -/
theorem setPath_lawful_partsSample :
    let p : Path := ["parts", "$last", "size", "unit"]
    Value.HasPlace p (.hash partsSample) ∧
      (partsSample.setPath p (.string "cm")).value.findPath p = some (.string "cm") ∧
      (partsSample.setPath p (.string "cm")).value.setPath p (.string "in") =
        partsSample.setPath p (.string "in") := by
  intro p
  have hdistinct : (Value.hash partsSample).Distinct := by
    simp [partsSample, Value.Distinct, Value.DistinctFields, Value.DistinctItems, Entries.Unique,
      Entries.names]
  have hnew : Value.HasPlace ["size", "unit"] (.hash [("name", .string "a")]) :=
    .inNewField (by decide +kernel) (by decide) rfl (by decide) (.field (by decide +kernel))
  have hlast : Path.index? "$last" 1 = some 0 := by decide
  have hplace : Value.HasPlace p (.hash partsSample) :=
    .inField (by decide +kernel) rfl (.inItem hlast rfl hnew)
  have hlawful := setPath_lawful hdistinct hplace (.string "cm") (.string "in")
  exact ⟨hplace, hlawful.2.1, hlawful.2.2.1⟩

end Hash

end RecordFix
