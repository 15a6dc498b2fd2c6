import RecordFix.Proofs.Path.Direct

/-!
# Retaining fields

A record keeps the fields that some patterns name, and the virtual fields among them become fields
unless they are fields already. Whether they are is asked of their names as patterns. As long as
these name what is called like them alone, retaining a second time changes nothing, the virtual
fields that are left are fields, and the fields are those that were there and are named, followed by
the virtual fields that were not there. Where a virtual field is called like a pattern for other
fields it may be passed over for a field that goes away itself, and is promoted the second time; in
any case a third time changes nothing (`Record.retain_settles`).
-/

namespace RecordFix

/-! ## The fields that are kept -/

namespace Hash

/-- Whether one of the patterns names the field. -/
def keeps (patterns : List String) (name : String) : Bool :=
  patterns.any fun pattern => (FieldPattern.ofString pattern).holds name

variable {h : Hash} {patterns : List String}

theorem retain_eq_filter (h : Hash) (patterns : List String) :
    h.retain patterns = h.filter fun field => keeps patterns field.1 := by
  simp only [retain, keeps, List.any_map, Function.comp_def]

theorem keeps_of_mem_names_retain {name : String}
    (hname : name ∈ Entries.names (h.retain patterns)) : keeps patterns name = true := by
  rw [retain_eq_filter] at hname
  obtain ⟨field, hfield, rfl⟩ := List.mem_map.mp hname
  exact (List.mem_filter.mp hfield).2

theorem retain_of_keeps (hk : ∀ name ∈ Entries.names h, keeps patterns name = true) :
    h.retain patterns = h := by
  rw [retain_eq_filter]
  exact List.filter_eq_self.mpr fun field hfield => hk field.1 (List.mem_map_of_mem hfield)

theorem retain_retain (h : Hash) (patterns : List String) :
    (h.retain patterns).retain patterns = h.retain patterns :=
  retain_of_keeps fun _ => keeps_of_mem_names_retain

theorem names_retain_sublist (h : Hash) (patterns : List String) :
    (Entries.names (h.retain patterns)).Sublist (Entries.names h) := by
  rw [retain_eq_filter]
  exact List.filter_sublist.map _

theorem retain_append (h g : Hash) (patterns : List String) :
    (h ++ g : Hash).retain patterns = h.retain patterns ++ g.retain patterns := by
  simp only [retain_eq_filter, List.filter_append]

theorem hasMatch_iff {segment : String} :
    h.hasMatch segment = true ↔
      ∃ name ∈ Entries.names h, (FieldPattern.ofString segment).holds name = true := by
  simp [hasMatch, matching, Entries.names]

end Hash

/-! ## Promotion -/

namespace Record

open Hash

variable {fields virtual : Hash} {patterns : List String}

theorem names_subset_names_promote (fields virtual : Hash) :
    Entries.names fields ⊆ Entries.names (promote fields virtual) := by
  induction virtual generalizing fields with
  | nil => exact List.Subset.refl _
  | cons field rest ih =>
    rw [promote]
    split
    · exact ih fields
    · exact List.Subset.trans (Entries.names_subset_names_put fields field.1 field.2) (ih _)

theorem mem_names_promote {name : String} (h : name ∈ Entries.names (promote fields virtual)) :
    name ∈ Entries.names fields ∨ name ∈ Entries.names virtual := by
  induction virtual generalizing fields with
  | nil => exact .inl h
  | cons field rest ih =>
    rw [promote] at h
    rcases ih h with hfields | hrest
    · split at hfields
      · exact .inl hfields
      · rcases Entries.mem_names_of_mem_names_put hfields with hold | rfl
        · exact .inl hold
        · exact .inr List.mem_cons_self
    · exact .inr (List.mem_cons_of_mem _ hrest)

theorem get?_promote_of_notMem {name : String} (hname : name ∉ Entries.names virtual)
    (fields : Hash) : Entries.get? (promote fields virtual) name = Entries.get? fields name := by
  induction virtual generalizing fields with
  | nil => rfl
  | cons field rest ih =>
    obtain ⟨other, v⟩ := field
    have hne : name ≠ other := fun heq => hname (heq ▸ List.mem_cons_self)
    rw [promote, ih fun hmem => hname (List.mem_cons_of_mem other hmem)]
    split
    · rfl
    · exact Entries.get?_put_of_ne hne fields v

/-- Nothing is to be done for a virtual field: its name, as a pattern, names a field, or there is a
field of this name with this value. -/
def Settled (fields : Hash) (field : String × Value) : Prop :=
  fields.hasMatch field.1 = true ∨ Entries.get? fields field.1 = some field.2

theorem promote_of_settled (h : ∀ field ∈ virtual, Settled fields field) :
    promote fields virtual = fields := by
  induction virtual with
  | nil => rfl
  | cons field rest ih =>
    have hrest : promote fields rest = fields := ih fun other hmem => h other (.tail _ hmem)
    rw [promote]
    split
    · exact hrest
    · next hmatch =>
      rw [Entries.put_of_get?_eq ((h field List.mem_cons_self).resolve_left hmatch)]
      exact hrest

theorem settled_promote (hu : Entries.Unique virtual) (fields : Hash) :
    ∀ field ∈ virtual, Settled (promote fields virtual) field := by
  induction virtual generalizing fields with
  | nil => exact nofun
  | cons field rest ih =>
    obtain ⟨name, v⟩ := field
    obtain ⟨hnew, hrest⟩ : name ∉ Entries.names rest ∧ Entries.Unique rest := List.nodup_cons.mp hu
    rw [promote]
    refine List.forall_mem_cons.mpr ⟨?_, ih hrest _⟩
    split
    · next hmatch =>
      obtain ⟨other, hother, hholds⟩ := hasMatch_iff.mp hmatch
      exact .inl (hasMatch_iff.mpr ⟨other, names_subset_names_promote _ _ hother, hholds⟩)
    · refine .inr ?_
      rw [get?_promote_of_notMem hnew]
      exact Entries.get?_put_self fields name v

theorem promote_promote (hu : Entries.Unique virtual) (fields : Hash) :
    promote (promote fields virtual) virtual = promote fields virtual :=
  promote_of_settled (settled_promote hu fields)

/-- If the names of virtual fields name what is called like them alone, those that are no fields yet
come behind the fields. -/
theorem promote_eq_append (hu : Entries.Unique virtual)
    (hexact : ∀ name ∈ Entries.names virtual,
      FieldPattern.ExactAmong name (Entries.names fields ++ Entries.names virtual)) :
    promote fields virtual =
      fields ++ virtual.filter fun field => !Entries.has fields field.1 := by
  induction virtual generalizing fields with
  | nil => rw [promote, List.filter_nil, List.append_nil]
  | cons field rest ih =>
    obtain ⟨name, v⟩ := field
    obtain ⟨hnew, hrest⟩ : name ∉ Entries.names rest ∧ Entries.Unique rest := List.nodup_cons.mp hu
    have hhas : fields.hasMatch name = Entries.has fields name :=
      hasMatch_of_exactAmong fun other hmem =>
        hexact name List.mem_cons_self other (List.mem_append_left _ hmem)
    rw [promote, hhas]
    cases hpresent : Entries.has fields name with
    | true =>
      rw [List.filter_cons_of_neg (by simp [hpresent]), if_pos rfl]
      refine ih hrest fun other hother third hthird => hexact other (.tail _ hother) third ?_
      exact List.append_subset.mpr ⟨List.subset_append_left _ _,
        List.Subset.trans (List.subset_cons_self name _) (List.subset_append_right _ _)⟩ hthird
    | false =>
      have hput : Entries.put fields name v = fields ++ [(name, v)] := by
        refine Entries.put_of_notMem_names (Entries.get?_eq_none_iff.mp ?_) v
        rwa [Entries.has_eq_isSome_get?, Option.isSome_eq_false_iff, Option.isNone_iff_eq_none]
          at hpresent
      have hfilter : (rest.filter fun field => !Entries.has (fields ++ [(name, v)]) field.1) =
          rest.filter fun field => !Entries.has fields field.1 := by
        refine List.filter_congr fun other hother => ?_
        have hne : name ≠ other.1 := fun heq => hnew (heq ▸ List.mem_map_of_mem hother)
        simp [Entries.has, hne]
      rw [List.filter_cons_of_pos (by simp [hpresent]), if_neg Bool.false_ne_true, hput, ih hrest,
        hfilter, List.append_assoc, List.singleton_append]
      intro other hother third hthird
      refine hexact other (.tail _ hother) third ?_
      simpa [Entries.names, or_assoc] using hthird

/-! ## Retaining again -/

variable {r : Record}

/-- From the second time on no field goes away. -/
theorem retain_retain (r : Record) (patterns : List String) :
    (r.retain patterns).retain patterns =
      { r.retain patterns with
        fields := promote (r.retain patterns).fields (r.virtualFields.retain patterns) } := by
  have hkept : (promote (r.retain patterns).fields (r.virtualFields.retain patterns)).retain
      patterns = promote (r.retain patterns).fields (r.virtualFields.retain patterns) :=
    retain_of_keeps fun _ hname => (mem_names_promote hname).elim keeps_of_mem_names_retain
      keeps_of_mem_names_retain
  rw [retain, ← hkept]
  simp only [retain, Hash.retain_retain]

theorem retain_retain_retain (hu : Entries.Unique r.virtualFields) :
    ((r.retain patterns).retain patterns).retain patterns =
      (r.retain patterns).retain patterns := by
  have hunique : Entries.Unique (r.virtualFields.retain patterns) :=
    hu.sublist (names_retain_sublist _ _)
  have hfields := promote_promote hunique (r.retain patterns).fields
  rw [retain_retain (r.retain patterns), retain_retain r]
  simp only [retain, Hash.retain_retain] at hfields ⊢
  rw [hfields]

/-- The names of the virtual fields that are kept name, as patterns, what is called like them
alone. -/
def ExactPromotions (r : Record) (patterns : List String) : Prop :=
  ∀ name ∈ Entries.names (r.virtualFields.retain patterns), FieldPattern.ExactAmong name
    (Entries.names r.fields ++ Entries.names (r.virtualFields.retain patterns))

instance (r : Record) (patterns : List String) : Decidable (r.ExactPromotions patterns) := by
  unfold ExactPromotions
  infer_instance

theorem fields_retain (hu : Entries.Unique r.virtualFields)
    (hexact : r.ExactPromotions patterns) :
    (r.retain patterns).fields = (r.fields.filter fun field => keeps patterns field.1) ++
      r.virtualFields.filter fun field =>
        keeps patterns field.1 && !Entries.has r.fields field.1 := by
  have hpromote := promote_eq_append (hu.sublist (names_retain_sublist _ _)) hexact
  have hnew : ((r.virtualFields.retain patterns).filter fun field =>
      !Entries.has r.fields field.1) = r.virtualFields.filter fun field =>
        keeps patterns field.1 && !Entries.has r.fields field.1 := by
    rw [retain_eq_filter, List.filter_filter]
    exact List.filter_congr fun _ _ => Bool.and_comm _ _
  rw [retain, hpromote, hnew, ← retain_eq_filter]
  dsimp only
  rw [retain_append]
  refine congrArg (r.fields.retain patterns ++ ·) (retain_of_keeps fun name hname => ?_)
  obtain ⟨field, hfield, rfl⟩ := List.mem_map.mp hname
  exact (Bool.and_eq_true_iff.mp (List.mem_filter.mp hfield).2).1

/-- The virtual fields that are kept are fields. -/
theorem names_virtualFields_subset (hu : Entries.Unique r.virtualFields)
    (hexact : r.ExactPromotions patterns) :
    Entries.names (r.retain patterns).virtualFields ⊆ Entries.names (r.retain patterns).fields := by
  intro name hname
  have hkeeps : keeps patterns name = true := keeps_of_mem_names_retain hname
  obtain ⟨field, hfield, rfl⟩ := List.mem_map.mp ((names_retain_sublist _ _).subset hname)
  rw [fields_retain hu hexact, Entries.names, List.map_append]
  cases hhas : Entries.has r.fields field.1 with
  | true =>
    obtain ⟨old, hold, heq⟩ := List.any_eq_true.mp hhas
    rw [← beq_iff_eq.mp heq] at hkeeps ⊢
    exact List.mem_append_left _ (List.mem_map_of_mem (List.mem_filter.mpr ⟨hold, hkeeps⟩))
  | false =>
    exact List.mem_append_right _
      (List.mem_map_of_mem (List.mem_filter.mpr ⟨hfield, by simp [hhas, hkeeps]⟩))

/-- Retaining a third time changes nothing. If the virtual fields that are kept have names that name
what is called like them alone, the second time changes nothing either: all of them are fields then,
and the fields are those that were there and are kept, followed by the virtual fields that were not
there. -/
theorem retain_settles (r : Record) (patterns : List String)
    (hu : Entries.Unique r.virtualFields) :
    ((r.retain patterns).retain patterns).retain patterns = (r.retain patterns).retain patterns ∧
      (r.ExactPromotions patterns →
        (r.retain patterns).retain patterns = r.retain patterns ∧
          Entries.names (r.retain patterns).virtualFields ⊆
            Entries.names (r.retain patterns).fields ∧
          (r.retain patterns).fields = (r.fields.filter fun field => keeps patterns field.1) ++
            r.virtualFields.filter fun field =>
              keeps patterns field.1 && !Entries.has r.fields field.1) := by
  refine ⟨retain_retain_retain hu, fun hexact => ?_⟩
  have hsubset := names_virtualFields_subset hu hexact
  refine ⟨?_, hsubset, fields_retain hu hexact⟩
  have hsettled : ∀ field ∈ r.virtualFields.retain patterns,
      Settled (r.retain patterns).fields field := by
    intro field hfield
    have hname : field.1 ∈ Entries.names (r.virtualFields.retain patterns) :=
      List.mem_map_of_mem hfield
    have hitself := hexact _ hname field.1 (List.mem_append_right _ hname)
    exact .inl (hasMatch_iff.mpr ⟨field.1, hsubset hname, hitself.mpr rfl⟩)
  rw [retain_retain, promote_of_settled hsettled]

/-- A virtual field that is a field, one that is none, and one that is not retained. -/
def catalogSample : Record :=
  { fields := [("title", .string "t"), ("_id", .string "2"), ("note", .string "n")]
    virtualFields := [("_id", .string "1"), ("_file", .string "f"), ("_line", .string "7")] }

theorem retain_settles_catalogSample :
    let r := catalogSample
    let patterns := ["t*", "_i?", "_f*"]
    r.ExactPromotions patterns ∧ (r.retain patterns).retain patterns = r.retain patterns ∧
      (r.retain patterns).fields =
        [("title", .string "t"), ("_id", .string "2"), ("_file", .string "f")] := by
  intro r patterns
  have hexact : r.ExactPromotions patterns := by decide +kernel
  have hsettles := (retain_settles r patterns (by decide)).2 hexact
  exact ⟨hexact, hsettles.1, hsettles.2.2.trans (by decide +kernel)⟩

/-- A virtual field whose name, as a pattern, names a field that is not retained is promoted the
second time only. -/
theorem promoted_late :
    ¬ ∀ (r : Record) (patterns : List String), (Value.hash r.fields).Distinct →
      (Value.hash r.virtualFields).Distinct →
        (r.retain patterns).retain patterns = r.retain patterns := by
  intro hall
  have hfalse := hall
    { fields := [("abc", .string "x")], virtualFields := [("a*", .string "v")] } ["a?"]
    (by decide) (by decide)
  exact absurd (congrArg Record.fields hfalse) (by decide +kernel)

/-- A virtual field that is called like a pattern for other names takes the place of the field that
is called like it. -/
example :
    (retain { fields := [("a|b", .string "x")], virtualFields := [("a|b", .string "v")] }
      ["a*"]).fields = [("a|b", .string "v")] := by
  decide +kernel

end Record

end RecordFix
