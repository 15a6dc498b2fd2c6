import RecordFix.Proofs.Regex.Spans

/-!
# Matching is complete

The ways of matching from a place end at the places that the expression spans to, and at no others
(`Regex.comes_ends`), whatever is passed over on the way because its place or state has been seen
before. So an expression occurs in a text exactly if it spans some part of it
(`Regex.occursIn_iff`), and between the anchors of a text if it spans the whole of it
(`Regex.occursIn_anchored_iff`).

A repetition is a search in which no state is visited twice. Its invariant says that the states seen
are covered: all places that they lead to are known. States that are still being visited are not
covered yet; they have a higher count than those visited inside them, or stand further back, and
the invariant leaves them out by that (`Regex.visits_turn`).
-/

namespace RecordFix.Regex

open Thread

/-- The ways of going on from a thread come to the places that the relation leads to. -/
def Comes (once : Thread → List Thread) (R : Place → Place → Prop) : Prop :=
  ∀ t q, q ∈ places (once t) ↔ R t.place q

variable {once : Thread → List Thread} {R : Place → Place → Prop} {p : Place}

theorem Comes.leads (honce : Comes once R) (hR : Forward R) {t u : Thread} (ht : p.Leads t.place)
    (hu : u ∈ once t) : p.Leads u.place :=
  ht.trans (hR _ _ ((honce t u.place).mp (mem_places.mpr ⟨u, hu, rfl⟩)))

/-! ## An exact number of times -/

theorem mem_places_iterate (hR : Forward R) (honce : Comes once R) (n : Nat)
    {threads : List Thread} (hthreads : ∀ t ∈ threads, p.Leads t.place) (q : Place) :
    q ∈ places (iterate once n threads) ↔ ∃ t ∈ threads, Steps R n t.place q := by
  induction n generalizing threads with
  | zero => exact mem_places
  | succ n ih =>
    have hmore : ∀ v ∈ places (threads.flatMap once), p.Leads v := by
      intro v hv
      obtain ⟨t, ht, hv⟩ := mem_places_flatMap.mp hv
      exact (hthreads t ht).trans (hR _ _ ((honce t v).mp hv))
    have hplaces (u : Place) : u ∈ places (distinct (threads.flatMap once)) ↔
        ∃ t ∈ threads, R t.place u := by
      rw [mem_places_distinct hmore, mem_places_flatMap]
      simp only [honce _ u]
    have hkept : ∀ u ∈ distinct (threads.flatMap once), p.Leads u.place := by
      intro u hu
      refine hmore _ ((mem_places_distinct hmore _).mp ?_)
      exact mem_places.mpr ⟨u, hu, rfl⟩
    rw [iterate, ih hkept]
    constructor
    · rintro ⟨u, hu, hq⟩
      obtain ⟨t, ht, hstep⟩ := (hplaces u.place).mp (mem_places.mpr ⟨u, hu, rfl⟩)
      exact ⟨t, ht, u.place, hstep, hq⟩
    · rintro ⟨t, ht, v, hstep, hq⟩
      obtain ⟨u, hu, rfl⟩ := mem_places.mp ((hplaces v).mpr ⟨t, ht, hstep⟩)
      exact ⟨u, hu, hq⟩

/-! ## Searches that visit no state twice -/

namespace Trail

/-- The places that a search has found. -/
def places (trail : Trail) : Set Place := {q | q ∈ Thread.places trail.found}

@[simp] theorem places_nothing (seen : List (Nat × Nat)) : places ⟨seen, []⟩ = ∅ := by
  simp [places, Thread.places]

/-- A visit to a state: it comes to nothing if the state has been seen, and else it finds what
following threads from there finds, and the thread itself, the preferred first. -/
def turn (greedy : Bool) (visit : List (Nat × Nat) → Thread → Trail) (state : Nat × Nat)
    (next : List Thread) (seen : List (Nat × Nat)) (t : Thread) : Trail :=
  if seen.contains state then ⟨seen, []⟩
  else
    let deeper := follow visit (state :: seen) next
    ⟨deeper.seen, if greedy then deeper.found ++ [t] else t :: deeper.found⟩

end Trail

theorem upTo_succ (once : Thread → List Thread) (greedy : Bool) (n : Nat) (seen : List (Nat × Nat))
    (t : Thread) : upTo once greedy (n + 1) seen t =
      Trail.turn greedy (upTo once greedy n) (n, t.place.index) (once t) seen t := rfl

theorem more_succ (once : Thread → List Thread) (greedy : Bool) (fuel : Nat)
    (seen : List (Nat × Nat)) (t : Thread) : more once greedy (fuel + 1) seen t =
      Trail.turn greedy (more once greedy fuel) (0, t.place.index)
        ((once t).filter fun u => t.place.index < u.place.index) seen t := rfl

/-- Without fuel a visit follows nothing. -/
theorem more_zero (once : Thread → List Thread) (greedy : Bool) (seen : List (Nat × Nat))
    (t : Thread) : more once greedy 0 seen t =
      Trail.turn greedy (more once greedy 0) (0, t.place.index) [] seen t := by
  cases greedy <;> rfl

section Search

variable {visit : List (Nat × Nat) → Thread → Trail} {threads : List Thread}

theorem mem_found_follow {seen : List (Nat × Nat)} {u : Thread}
    (h : u ∈ (Trail.follow visit seen threads).found) :
    ∃ t ∈ threads, ∃ before, u ∈ (visit before t).found := by
  induction threads generalizing seen with
  | nil => cases h
  | cons t rest ih =>
    rw [Trail.follow] at h
    rcases List.mem_append.mp h with hfirst | hothers
    · exact ⟨t, .head _, seen, hfirst⟩
    · obtain ⟨w, hw, hu⟩ := ih hothers
      exact ⟨w, .tail _ hw, hu⟩

theorem mem_found_turn {greedy : Bool} {state : Nat × Nat} {seen : List (Nat × Nat)} {t u : Thread}
    (h : u ∈ (Trail.turn greedy visit state threads seen t).found) :
    u = t ∨ ∃ v ∈ threads, ∃ before, u ∈ (visit before v).found := by
  unfold Trail.turn at h
  split at h
  · cases h
  · have hfound : u = t ∨ u ∈ (Trail.follow visit (state :: seen) threads).found := by
      cases greedy <;> simpa [or_comm] using h
    exact hfound.imp_right mem_found_follow

/-- The states seen of a kind are covered by the places known. -/
def CoversSeen (Covered : Nat × Nat → Set Place → Prop) (kind : Nat × Nat → Prop)
    (seen : List (Nat × Nat)) (known : Set Place) : Prop :=
  ∀ state ∈ seen, kind state → Covered state known

/-- A search from states seen and places known leaves the states of a kind covered, sees no states
of another kind for the first time, and has found what it is for. -/
structure Visits (Covered : Nat × Nat → Set Place → Prop) (kind : Nat × Nat → Prop)
    (seen : List (Nat × Nat)) (known : Set Place) (trail : Trail) (Achieved : Set Place → Prop) :
    Prop where
  covers : CoversSeen Covered kind trail.seen (known ∪ trail.places)
  new : ∀ state ∈ trail.seen, state ∈ seen ∨ kind state
  achieved : Achieved (known ∪ trail.places)

/-- Following threads one after the other covers what each visit covers, and achieves what each of
them achieves. -/
theorem visits_follow (Covered : Nat × Nat → Set Place → Prop) (kind : Nat × Nat → Prop)
    (Achieved : Thread → Set Place → Prop)
    (hachieved : ∀ t (known more : Set Place), Achieved t known → known ⊆ more → Achieved t more)
    (hvisit : ∀ t ∈ threads, ∀ seen known, CoversSeen Covered kind seen known →
      Visits Covered kind seen known (visit seen t) (Achieved t))
    {seen : List (Nat × Nat)} {known : Set Place} (h : CoversSeen Covered kind seen known) :
    Visits Covered kind seen known (Trail.follow visit seen threads)
      fun known => ∀ t ∈ threads, Achieved t known := by
  induction threads generalizing seen known with
  | nil =>
    have hnothing : known ∪ (Trail.follow visit seen []).places = known := by
      rw [Trail.follow, Trail.places_nothing, Set.union_empty]
    exact ⟨hnothing.symm ▸ h, fun _ hstate => .inl hstate, nofun⟩
  | cons t rest ih =>
    have hfirst := hvisit t (.head _) seen known h
    have hrest := ih (fun u hu => hvisit u (.tail _ hu)) hfirst.covers
    have hplaces : known ∪ (Trail.follow visit seen (t :: rest)).places =
        known ∪ (visit seen t).places ∪ (Trail.follow visit (visit seen t).seen rest).places := by
      rw [Set.union_assoc]
      congr 1
      ext q
      simp [Trail.places, Trail.follow, Thread.places]
    refine ⟨hplaces.symm ▸ hrest.covers, fun state hstate => ?_, ?_⟩
    · exact (hrest.new state hstate).elim (hfirst.new state) .inr
    · rw [hplaces]
      refine List.forall_mem_cons.mpr ⟨?_, hrest.achieved⟩
      exact hachieved t _ _ hfirst.achieved Set.subset_union_left

/-- If the visits that follow cover the states of the kind inside, this one covers those of the kind
around them: what it passes over has been covered, and what it follows is covered then. -/
theorem visits_turn (Covered : Nat × Nat → Set Place → Prop) (inside around : Nat × Nat → Prop)
    (Achieved : Thread → Set Place → Prop)
    (hcovered : ∀ state (known more : Set Place),
      Covered state known → known ⊆ more → Covered state more)
    (hachieved : ∀ t (known more : Set Place), Achieved t known → known ⊆ more → Achieved t more)
    (hkinds : ∀ state, inside state → around state) {state : Nat × Nat} (hstate : around state)
    (hnot : ¬ inside state) {next : List Thread}
    (hvisit : ∀ u ∈ next, ∀ seen known, CoversSeen Covered inside seen known →
      Visits Covered inside seen known (visit seen u) (Achieved u)) {t : Thread}
    (hhere : ∀ known : Set Place, t.place ∈ known → (∀ u ∈ next, Achieved u known) →
      Covered state known) (greedy : Bool) {seen : List (Nat × Nat)} {known : Set Place}
    (h : CoversSeen Covered around seen known) :
    Visits Covered around seen known (Trail.turn greedy visit state next seen t)
      (Covered state) := by
  by_cases hseen : state ∈ seen
  · have htrail : Trail.turn greedy visit state next seen t = ⟨seen, []⟩ :=
      if_pos (List.contains_iff_mem.mpr hseen)
    rw [htrail]
    constructor <;> simp only [Trail.places_nothing, Set.union_empty]
    · exact h
    · exact fun _ hother => .inl hother
    · exact h state hseen hstate
  · let deeper := Trail.follow visit (state :: seen) next
    have htrail : Trail.turn greedy visit state next seen t =
        ⟨deeper.seen, if greedy then deeper.found ++ [t] else t :: deeper.found⟩ :=
      if_neg fun hmem => hseen (List.contains_iff_mem.mp hmem)
    have hfound : (Trail.turn greedy visit state next seen t).places =
        deeper.places ∪ {t.place} := by
      ext q
      rw [htrail]
      cases greedy <;> simp [Trail.places, Thread.places, eq_comm, or_comm]
    have hstart : CoversSeen Covered inside (state :: seen) known := by
      intro other hother hin
      rcases List.mem_cons.mp hother with rfl | hother
      · exact absurd hin hnot
      · exact h other hother (hkinds other hin)
    have hdeeper : Visits Covered inside (state :: seen) known deeper _ :=
      visits_follow Covered inside Achieved hachieved hvisit hstart
    have hmore : known ∪ deeper.places ⊆ known ∪ (deeper.places ∪ {t.place}) :=
      Set.union_subset_union_right known Set.subset_union_left
    have hcovers : Covered state (known ∪ (deeper.places ∪ {t.place})) :=
      hhere _ (.inr (.inr rfl)) fun u hu => hachieved u _ _ (hdeeper.achieved u hu) hmore
    rw [← hfound] at hmore hcovers
    refine ⟨fun other hother haround => ?_, fun other hother => ?_, hcovers⟩
    · rw [htrail] at hother
      rcases hdeeper.new other hother with hmem | hin
      · rcases List.mem_cons.mp hmem with rfl | hmem
        · exact hcovers
        · exact hcovered other _ _ (h other hmem haround) Set.subset_union_left
      · exact hcovered other _ _ (hdeeper.covers other hother hin) hmore
    · rw [htrail] at hother
      rcases hdeeper.new other hother with hmem | hin
      · rcases List.mem_cons.mp hmem with rfl | hmem
        · exact .inr hstate
        · exact .inl hmem
      · exact .inr (hkinds other hin)

end Search

/-! ## Up to a number of times -/

/-- From the place of an index all that up to so many steps lead to is known. -/
def Covers (R : Place → Place → Prop) (p : Place) (count index : Nat) (known : Set Place) : Prop :=
  ∀ x, p.Leads x → x.index = index → ∀ k ≤ count, ∀ y, Steps R k x y → y ∈ known

theorem Covers.mono {count index : Nat} {known more : Set Place}
    (h : Covers R p count index known) (hsub : known ⊆ more) : Covers R p count index more :=
  fun x hx hindex k hk y hy => hsub (h x hx hindex k hk y hy)

theorem mem_found_upTo (honce : Comes once R) (greedy : Bool) (n : Nat) {seen : List (Nat × Nat)}
    {t u : Thread} (h : u ∈ (upTo once greedy n seen t).found) :
    ∃ k ≤ n, Steps R k t.place u.place := by
  induction n generalizing seen t with
  | zero =>
    obtain rfl := List.mem_singleton.mp h
    exact ⟨0, Nat.le_refl 0, rfl⟩
  | succ n ih =>
    rw [upTo_succ] at h
    rcases mem_found_turn h with rfl | ⟨v, hv, before, hu⟩
    · exact ⟨0, Nat.zero_le _, rfl⟩
    · obtain ⟨k, hk, hsteps⟩ := ih hu
      have hstep : R t.place v.place := (honce t _).mp (mem_places.mpr ⟨v, hv, rfl⟩)
      exact ⟨k + 1, Nat.succ_le_succ hk, v.place, hstep, hsteps⟩

/-- A state with a count has one more step to go. -/
theorem visits_upTo (hR : Forward R) (honce : Comes once R) (greedy : Bool) (n : Nat) {t : Thread}
    (ht : p.Leads t.place) {seen : List (Nat × Nat)} {known : Set Place}
    (h : CoversSeen (fun state => Covers R p (state.1 + 1) state.2) (·.1 < n) seen known) :
    Visits (fun state => Covers R p (state.1 + 1) state.2) (·.1 < n) seen known
      (upTo once greedy n seen t) (Covers R p n t.place.index) := by
  induction n generalizing t seen known with
  | zero =>
    refine ⟨fun _ _ hlt => absurd hlt (Nat.not_lt_zero _), fun _ hstate => .inl hstate, ?_⟩
    intro x hx hindex k hk y hy
    obtain rfl := Nat.le_zero.mp hk
    obtain rfl : x = y := hy
    exact .inr (mem_places.mpr ⟨t, List.mem_singleton_self t, ht.eq_of_index hx hindex.symm⟩)
  | succ n ih =>
    rw [upTo_succ]
    refine visits_turn (fun state => Covers R p (state.1 + 1) state.2) (·.1 < n) (·.1 < n + 1)
      (fun u => Covers R p n u.place.index) (fun _ _ _ => Covers.mono)
      (fun _ _ _ => Covers.mono) (fun _ hlt => Nat.lt_succ_of_lt hlt) (Nat.lt_succ_self n)
      (Nat.lt_irrefl n) (fun u hu _ _ hseen => ih (honce.leads hR ht hu) hseen) ?_ greedy h
    intro known htmem hnext x hx hindex k hk y hy
    obtain rfl : x = t.place := hx.eq_of_index ht hindex
    cases k with
    | zero =>
      obtain rfl : t.place = y := hy
      exact htmem
    | succ k =>
      obtain ⟨v, hstep, hy⟩ := hy
      obtain ⟨u, hu, rfl⟩ := mem_places.mp ((honce t v).mpr hstep)
      exact hnext u hu _ (honce.leads hR ht hu) rfl k (Nat.le_of_succ_le_succ hk) y hy

theorem mem_places_upTo (hR : Forward R) (honce : Comes once R) (greedy : Bool) (n : Nat)
    (t : Thread) (q : Place) :
    q ∈ places (upTo once greedy n [] t).found ↔ ∃ k ≤ n, Steps R k t.place q := by
  constructor
  · intro hq
    obtain ⟨u, hu, rfl⟩ := mem_places.mp hq
    exact mem_found_upTo honce greedy n hu
  · rintro ⟨k, hk, hsteps⟩
    have hnothing :
        CoversSeen (fun state => Covers R t.place (state.1 + 1) state.2) (·.1 < n) [] ∅ :=
      nofun
    have hvisits := visits_upTo hR honce greedy n (.refl t.place) hnothing
    have hq := hvisits.achieved t.place (.refl _) rfl k hk q hsteps
    exact hq.resolve_left (Set.notMem_empty q)

/-! ## Any number of times -/

/-- A step that takes a character at least. -/
def Onward (R : Place → Place → Prop) (p q : Place) : Prop := R p q ∧ p.index < q.index

/-- Steps that take no character may be left out. -/
theorem onward_of_steps (hR : Forward R) {n : Nat} {q : Place} (h : Steps R n p q) :
    Relation.ReflTransGen (Onward R) p q := by
  induction n generalizing p with
  | zero =>
    obtain rfl : p = q := h
    exact .refl
  | succ n ih =>
    obtain ⟨u, hu, hq⟩ := h
    have hleads := hR p u hu
    by_cases hlt : p.index < u.index
    · exact .head ⟨hu, hlt⟩ (ih hq)
    · obtain rfl : p = u := by
        refine (Place.Leads.refl p).eq_of_index hleads ?_
        exact Nat.le_antisymm hleads.index_le (Nat.not_lt.mp hlt)
      exact ih hq

/-- From the place of an index all that steps onward lead to is known. -/
def Exhausts (R : Place → Place → Prop) (p : Place) (index : Nat) (known : Set Place) : Prop :=
  ∀ x, p.Leads x → x.index = index → ∀ y, Relation.ReflTransGen (Onward R) x y → y ∈ known

theorem Exhausts.mono {index : Nat} {known more : Set Place} (h : Exhausts R p index known)
    (hsub : known ⊆ more) : Exhausts R p index more :=
  fun x hx hindex y hy => hsub (h x hx hindex y hy)

theorem mem_found_more (honce : Comes once R) (greedy : Bool) (fuel : Nat)
    {seen : List (Nat × Nat)} {t u : Thread} (h : u ∈ (more once greedy fuel seen t).found) :
    ∃ n, Steps R n t.place u.place := by
  induction fuel generalizing seen t with
  | zero =>
    rw [more_zero] at h
    rcases mem_found_turn h with rfl | ⟨v, hv, -⟩
    · exact ⟨0, rfl⟩
    · cases hv
  | succ fuel ih =>
    rw [more_succ] at h
    rcases mem_found_turn h with rfl | ⟨v, hv, before, hu⟩
    · exact ⟨0, rfl⟩
    · obtain ⟨n, hsteps⟩ := ih hu
      have hstep : R t.place v.place :=
        (honce t _).mp (mem_places.mpr ⟨v, (List.mem_filter.mp hv).1, rfl⟩)
      exact ⟨n + 1, v.place, hstep, hsteps⟩

theorem visits_more (hR : Forward R) (honce : Comes once R) (greedy : Bool) (fuel : Nat)
    {t : Thread} (ht : p.Leads t.place) (hfuel : t.place.rest.length ≤ fuel) {index : Nat}
    (hindex : index ≤ t.place.index) {seen : List (Nat × Nat)} {known : Set Place}
    (h : CoversSeen (fun state => Exhausts R p state.2) (index ≤ ·.2) seen known) :
    Visits (fun state => Exhausts R p state.2) (index ≤ ·.2) seen known
      (more once greedy fuel seen t) (Exhausts R p t.place.index) := by
  induction fuel generalizing t index seen known with
  | zero =>
    rw [more_zero]
    refine visits_turn (fun state => Exhausts R p state.2) (fun _ => False) (index ≤ ·.2)
      (fun _ _ => True) (fun _ _ _ => Exhausts.mono) (fun _ _ _ _ _ => trivial)
      (fun _ => False.elim) hindex id (fun u hu => absurd hu List.not_mem_nil) ?_ greedy h
    intro known htmem _ x hx hxindex y hy
    obtain rfl : x = t.place := hx.eq_of_index ht hxindex
    rcases hy.cases_head with rfl | ⟨u, ⟨hu, hlt⟩, -⟩
    · exact htmem
    · -- nothing is left of the text to go onward in
      have := (hR _ u hu).index_add_length
      omega
  | succ fuel ih =>
    rw [more_succ]
    have honward {u : Thread} : u ∈ (once t).filter (fun u => t.place.index < u.place.index) ↔
        u ∈ once t ∧ t.place.index < u.place.index := by
      simp
    refine visits_turn (fun state => Exhausts R p state.2) (t.place.index + 1 ≤ ·.2)
      (index ≤ ·.2) (fun u => Exhausts R p u.place.index) (fun _ _ _ => Exhausts.mono)
      (fun _ _ _ => Exhausts.mono) (fun state hle => ?_) hindex (Nat.not_succ_le_self _)
      (fun u hu seen known hseen => ?_) ?_ greedy h
    · exact hindex.trans (Nat.le_of_succ_le hle)
    · obtain ⟨hmem, hlt⟩ := honward.mp hu
      have hleads := honce.leads hR (.refl t.place) hmem
      have hlength := hleads.index_add_length
      exact ih (ht.trans hleads) (by omega) hlt hseen
    · intro known htmem hnext x hx hxindex y hy
      obtain rfl : x = t.place := hx.eq_of_index ht hxindex
      rcases hy.cases_head with rfl | ⟨v, ⟨hstep, hlt⟩, hy⟩
      · exact htmem
      · obtain ⟨u, hu, rfl⟩ := mem_places.mp ((honce t v).mpr hstep)
        exact hnext u (honward.mpr ⟨hu, hlt⟩) _ (honce.leads hR ht hu) rfl y hy

/-- What a state stands for while the first times are followed. A first time that takes no character
is not followed further: its place is known, and what it would lead to is found from the other first
times. -/
def FirstCovered (R : Place → Place → Prop) (p : Place) (state : Nat × Nat) (known : Set Place) :
    Prop :=
  if state.2 = p.index then p ∈ known else Exhausts R p state.2 known

/-- What a first time is followed for. -/
def FirstAchieved (R : Place → Place → Prop) (p : Place) (u : Thread) (known : Set Place) : Prop :=
  u.place ∈ known ∧ (p.index < u.place.index → Exhausts R p u.place.index known)

theorem FirstCovered.mono {state : Nat × Nat} {known more : Set Place}
    (h : FirstCovered R p state known) (hsub : known ⊆ more) : FirstCovered R p state more := by
  unfold FirstCovered at h ⊢
  split at h
  · next hindex => rw [if_pos hindex]; exact hsub h
  · next hindex => rw [if_neg hindex]; exact h.mono hsub

theorem visits_first (hR : Forward R) (honce : Comes once R) (greedy : Bool) {t u : Thread}
    (hu : u ∈ once t) {seen : List (Nat × Nat)} {known : Set Place}
    (h : CoversSeen (FirstCovered R t.place) (t.place.index ≤ ·.2) seen known) :
    Visits (FirstCovered R t.place) (t.place.index ≤ ·.2) seen known
      (more once greedy (if t.place.index < u.place.index then t.place.rest.length else 0) seen u)
      (FirstAchieved R t.place u) := by
  have hleads := honce.leads hR (.refl t.place) hu
  by_cases hlt : t.place.index < u.place.index
  · rw [if_pos hlt]
    have hlater : CoversSeen (fun state => Exhausts R t.place state.2) (t.place.index + 1 ≤ ·.2)
        seen known := by
      intro state hstate hle
      have hcovered := h state hstate (Nat.le_of_succ_le hle)
      rwa [FirstCovered, if_neg (Nat.ne_of_gt hle)] at hcovered
    have hlength := hleads.index_add_length
    have hvisits := visits_more hR honce greedy t.place.rest.length hleads (by omega)
      (Nat.succ_le_of_lt hlt) hlater
    refine ⟨fun state hstate hle => ?_, fun state hstate => ?_, ?_, fun _ => hvisits.achieved⟩
    · rcases hvisits.new state hstate with hold | hnew
      · exact (h state hold hle).mono Set.subset_union_left
      · rw [FirstCovered, if_neg (Nat.ne_of_gt hnew)]
        exact hvisits.covers state hstate hnew
    · exact (hvisits.new state hstate).imp_right Nat.le_of_succ_le
    · exact hvisits.achieved u.place hleads rfl u.place .refl
  · rw [if_neg hlt, more_zero]
    have hsame : u.place = t.place :=
      hleads.eq_of_index (.refl _) (Nat.le_antisymm (Nat.not_lt.mp hlt) hleads.index_le)
    have hhere (known : Set Place) (hmem : u.place ∈ known) :
        FirstCovered R t.place (0, u.place.index) known := by
      rw [FirstCovered, if_pos (congrArg Place.index hsame)]
      exact hsame ▸ hmem
    have hvisits : Visits (FirstCovered R t.place) (t.place.index ≤ ·.2) seen known
        (Trail.turn greedy (more once greedy 0) (0, u.place.index) [] seen u)
        (FirstCovered R t.place (0, u.place.index)) :=
      visits_turn (FirstCovered R t.place) (fun _ => False) (t.place.index ≤ ·.2)
        (fun _ _ => True) (fun _ _ _ => FirstCovered.mono) (fun _ _ _ _ _ => trivial)
        (fun _ => False.elim) hleads.index_le id (fun w hw => absurd hw List.not_mem_nil)
        (fun known hmem _ => hhere known hmem) greedy h
    refine ⟨hvisits.covers, hvisits.new, ?_, fun h => absurd h hlt⟩
    have hachieved := hvisits.achieved
    rw [FirstCovered, if_pos (congrArg Place.index hsame)] at hachieved
    exact Set.mem_of_eq_of_mem hsame hachieved

theorem mem_places_oneOrMore (hR : Forward R) (honce : Comes once R) (greedy : Bool) (t : Thread)
    (q : Place) : q ∈ places (oneOrMore once greedy t) ↔ ∃ n, Steps R (n + 1) t.place q := by
  constructor
  · intro hq
    obtain ⟨u, hu, rfl⟩ := mem_places.mp hq
    obtain ⟨v, hv, before, hu⟩ := mem_found_follow hu
    obtain ⟨n, hsteps⟩ := mem_found_more honce greedy _ hu
    exact ⟨n, v.place, (honce t _).mp (mem_places.mpr ⟨v, hv, rfl⟩), hsteps⟩
  · rintro ⟨n, v, hstep, hsteps⟩
    have hnothing : CoversSeen (FirstCovered R t.place) (t.place.index ≤ ·.2) [] ∅ := nofun
    have hvisits := visits_follow (FirstCovered R t.place) (t.place.index ≤ ·.2)
      (FirstAchieved R t.place)
      (fun u known more h hsub => ⟨hsub h.1, fun hlt => (h.2 hlt).mono hsub⟩)
      (fun u hu seen known h => visits_first hR honce greedy hu h) hnothing
    have hall := hvisits.achieved
    rw [Set.empty_union] at hall
    obtain ⟨w, hw, rfl⟩ := mem_places.mp ((honce t v).mpr hstep)
    have hleads := hR _ _ hstep
    have hchain := onward_of_steps hR hsteps
    by_cases hlt : t.place.index < w.place.index
    · exact (hall w hw).2 hlt w.place hleads rfl q hchain
    · have hsame : w.place = t.place :=
        hleads.eq_of_index (.refl _) (Nat.le_antisymm (Nat.not_lt.mp hlt) hleads.index_le)
      rcases hchain.cases_head with rfl | ⟨x, ⟨hx, hxlt⟩, hchain⟩
      · exact (hall w hw).1
      · rw [hsame] at hx hxlt
        obtain ⟨y, hy, rfl⟩ := mem_places.mp ((honce t x).mpr hx)
        exact (hall y hy).2 hxlt y.place (hR _ _ hx) rfl q hchain

/-! ## Repetitions -/

theorem steps_add {m n : Nat} {q : Place} :
    Steps R (m + n) p q ↔ ∃ u, Steps R m p u ∧ Steps R n u q := by
  induction m generalizing p with
  | zero =>
    rw [Nat.zero_add]
    constructor
    · exact fun h => ⟨p, rfl, h⟩
    · rintro ⟨_, rfl, h⟩
      exact h
  | succ m ih =>
    rw [Nat.succ_add]
    constructor
    · rintro ⟨v, hv, hq⟩
      obtain ⟨u, hu, hq⟩ := ih.mp hq
      exact ⟨u, ⟨v, hv, hu⟩, hq⟩
    · rintro ⟨u, ⟨v, hv, hu⟩, hq⟩
      exact ⟨v, hv, ih.mpr ⟨u, hu, hq⟩⟩

/-- The places that come of going on from the threads after an exact number of times. -/
theorem mem_places_after {f : Thread → List Thread} {S : Place → Place → Prop} (hR : Forward R)
    (hS : Forward S) (honce : Comes once R) (hf : Comes f S) (n : Nat) (t : Thread) (q : Place) :
    q ∈ places (distinct ((iterate once n [t]).flatMap f)) ↔
      ∃ u, Steps R n t.place u ∧ S u q := by
  have hself : ∀ u ∈ [t], t.place.Leads u.place := fun u hu => List.mem_singleton.mp hu ▸ .refl _
  have hiterate := mem_places_iterate hR honce n hself
  have hplaces (v : Place) : v ∈ places ((iterate once n [t]).flatMap f) ↔
      ∃ u, Steps R n t.place u ∧ S u v := by
    rw [mem_places_flatMap]
    constructor
    · rintro ⟨w, hw, hv⟩
      obtain ⟨u, hu, hsteps⟩ := (hiterate w.place).mp (mem_places.mpr ⟨w, hw, rfl⟩)
      obtain rfl := List.mem_singleton.mp hu
      exact ⟨w.place, hsteps, (hf w v).mp hv⟩
    · rintro ⟨u, hsteps, hv⟩
      obtain ⟨w, hw, rfl⟩ := mem_places.mp
        ((hiterate u).mpr ⟨t, List.mem_singleton_self t, hsteps⟩)
      exact ⟨w, hw, (hf w v).mpr hv⟩
  rw [mem_places_distinct (p := t.place) ?_ q, hplaces]
  intro v hv
  obtain ⟨u, hsteps, hv⟩ := (hplaces v).mp hv
  exact (forward_steps hR n _ u hsteps).trans (hS u v hv)

theorem mem_places_zeroOrMore (hR : Forward R) (honce : Comes once R) (greedy : Bool) (t : Thread)
    (q : Place) : q ∈ places (zeroOrMore once greedy t) ↔ ∃ n, Steps R n t.place q := by
  have hmore := mem_places_oneOrMore hR honce greedy t
  have hfound (v : Place) : (v = t.place ∨ v ∈ places (oneOrMore once greedy t)) ↔
      ∃ n, Steps R n t.place v := by
    constructor
    · rintro (rfl | hv)
      · exact ⟨0, rfl⟩
      · obtain ⟨n, hn⟩ := (hmore v).mp hv
        exact ⟨n + 1, hn⟩
    · rintro ⟨_ | n, hn⟩
      · exact .inl hn.symm
      · exact .inr ((hmore v).mpr ⟨n, hn⟩)
  have hleads (v : Place) (hv : v = t.place ∨ v ∈ places (oneOrMore once greedy t)) :
      t.place.Leads v := by
    obtain ⟨n, hn⟩ := (hfound v).mp hv
    exact forward_steps hR n _ v hn
  have hlast (v : Place) : v ∈ places (oneOrMore once greedy t ++ [t]) ↔
      v = t.place ∨ v ∈ places (oneOrMore once greedy t) := by
    simp [places, or_comm, eq_comm]
  have hfirst (v : Place) : v ∈ places (t :: oneOrMore once greedy t) ↔
      v = t.place ∨ v ∈ places (oneOrMore once greedy t) := by
    simp [places, eq_comm]
  unfold zeroOrMore
  split
  · rw [mem_places_distinct (p := t.place) (fun v hv => hleads v ((hlast v).mp hv)), hlast, hfound]
  · rw [mem_places_distinct (p := t.place) (fun v hv => hleads v ((hfirst v).mp hv)), hfirst,
      hfound]

theorem mem_places_times (hR : Forward R) (honce : Comes once R) (greedy : Bool) (t : Thread)
    (least : Nat) (most : Option Nat) (q : Place) :
    q ∈ places (times once greedy t least most) ↔
      ∃ n, least ≤ n ∧ (∀ m ∈ most, n ≤ max least m) ∧ Steps R n t.place q := by
  match least, most with
  | least, some most =>
    rw [times, mem_places_after hR (S := fun u v => ∃ k ≤ most - least, Steps R k u v) ?_ honce
      (mem_places_upTo hR honce greedy (most - least))]
    · constructor
      · rintro ⟨u, hu, k, hk, hq⟩
        refine ⟨least + k, Nat.le_add_right _ _, fun m hm => ?_, steps_add.mpr ⟨u, hu, hq⟩⟩
        obtain rfl := Option.mem_some_iff.mp hm
        omega
      · rintro ⟨n, hle, hmost, hq⟩
        obtain ⟨k, rfl⟩ := Nat.exists_eq_add_of_le hle
        obtain ⟨u, hu, hq⟩ := steps_add.mp hq
        have := hmost most rfl
        exact ⟨u, hu, k, by omega, hq⟩
    · rintro u v ⟨k, -, hk⟩
      exact forward_steps hR k u v hk
  | 0, none =>
    rw [times, mem_places_zeroOrMore hR honce]
    simp
  | least + 1, none =>
    rw [times, mem_places_after hR (S := fun u v => ∃ n, Steps R (n + 1) u v) ?_ honce
      (mem_places_oneOrMore hR honce greedy)]
    · constructor
      · rintro ⟨u, hu, n, hq⟩
        refine ⟨least + (n + 1), by omega, nofun, steps_add.mpr ⟨u, hu, hq⟩⟩
      · rintro ⟨n, hle, -, hq⟩
        obtain ⟨k, rfl⟩ := Nat.exists_eq_add_of_le hle
        rw [Nat.add_right_comm, Nat.add_assoc] at hq
        obtain ⟨u, hu, hq⟩ := steps_add.mp hq
        exact ⟨u, hu, k, hq⟩
    · rintro u v ⟨n, hn⟩
      exact forward_steps hR (n + 1) u v hn

/-! ## Expressions -/

/-- The ways of matching from a place end where the expression spans to. -/
theorem comes_ends (r : Regex) : Comes r.ends r.Spans := by
  induction r with
  | empty =>
    intro t q
    simp [ends, Spans, places, eq_comm]
  | char set =>
    intro t q
    rw [ends, Thread.take]
    cases hrest : t.place.rest with
    | nil =>
      refine ⟨fun h => absurd h List.not_mem_nil, ?_⟩
      rintro ⟨c, -, hpass⟩
      have := hpass.rest
      rw [hrest] at this
      cases this
    | cons c rest =>
      have hpass : t.place.Passes [c] ⟨t.place.index + 1, some c, rest⟩ := ⟨hrest, rfl, rfl⟩
      have hspans : Spans (.char set) t.place q ↔
          set c = true ∧ q = ⟨t.place.index + 1, some c, rest⟩ := by
        constructor
        · rintro ⟨d, hd, hq⟩
          obtain ⟨rfl, -⟩ : c = d ∧ rest = q.rest := List.cons.inj (hrest.symm.trans hq.rest)
          exact ⟨hd, hq.eq_of_length hpass rfl⟩
        · rintro ⟨hc, rfl⟩
          exact ⟨c, hc, hpass⟩
      rw [hspans]
      cases hc : set c
      · simp [places, hc]
      · simp [places, hc]
  | look holds =>
    intro t q
    rw [ends, Spans]
    cases holds t.place.before t.place.rest.head? <;> simp [places, eq_comm]
  | cat r s ihr ihs =>
    intro t q
    have hplaces (v : Place) : v ∈ places ((ends r t).flatMap (ends s)) ↔
        Spans (.cat r s) t.place v := by
      rw [mem_places_flatMap]
      constructor
      · rintro ⟨w, hw, hv⟩
        exact ⟨w.place, (ihr t _).mp (mem_places.mpr ⟨w, hw, rfl⟩), (ihs w v).mp hv⟩
      · rintro ⟨u, hu, hv⟩
        obtain ⟨w, hw, rfl⟩ := mem_places.mp ((ihr t u).mpr hu)
        exact ⟨w, hw, (ihs w v).mpr hv⟩
    rw [ends, mem_places_distinct (p := t.place) ?_ q, hplaces]
    exact fun v hv => forward_spans _ _ v ((hplaces v).mp hv)
  | alt r s ihr ihs =>
    intro t q
    have hplaces (v : Place) : v ∈ places (ends r t ++ ends s t) ↔
        Spans (.alt r s) t.place v := by
      rw [Spans, ← ihr t v, ← ihs t v, places, List.map_append, List.mem_append]
      rfl
    rw [ends, mem_places_distinct (p := t.place) ?_ q, hplaces]
    exact fun v hv => forward_spans _ _ v ((hplaces v).mp hv)
  | group index r ih =>
    intro t q
    rw [ends, Spans, ← ih t q, places, List.map_map]
    rfl
  | repeated r least most greedy ih =>
    intro t q
    rw [ends, Spans]
    exact mem_places_times (forward_spans r) ih greedy t least most q

/-! ## Searching a text -/

theorem isSome_matchFrom?_iff (r : Regex) (p : Place) :
    (r.matchFrom? p).isSome = true ↔ ∃ q, r.Spans p q := by
  rw [matchFrom?, matchAt?, Option.isSome_map, List.isSome_head?]
  constructor
  · intro h
    obtain ⟨u, hu⟩ := List.exists_mem_of_ne_nil _ (by simpa using h)
    exact ⟨u.place, (comes_ends r ⟨p, []⟩ _).mp (mem_places.mpr ⟨u, hu, rfl⟩)⟩
  · rintro ⟨q, hq⟩
    obtain ⟨u, hu, -⟩ := mem_places.mp ((comes_ends r ⟨p, []⟩ q).mpr hq)
    simpa using List.ne_nil_of_mem hu

theorem isSome_findFrom?_iff (r : Regex) (index : Nat) (before : Option Char) (text : List Char) :
    (r.findFrom? index before text).isSome = true ↔
      ∃ p q, Place.Leads ⟨index, before, text⟩ p ∧ r.Spans p q := by
  induction text generalizing index before with
  | nil =>
    rw [findFrom?, isSome_matchFrom?_iff]
    simp only [Place.leads_nil_iff]
    constructor
    · rintro ⟨q, hq⟩
      exact ⟨_, q, rfl, hq⟩
    · rintro ⟨_, q, rfl, hq⟩
      exact ⟨q, hq⟩
  | cons c rest ih =>
    have hhere := isSome_matchFrom?_iff r ⟨index, before, c :: rest⟩
    rw [findFrom?]
    simp only [Place.leads_cons_iff]
    cases hmatch : r.matchFrom? ⟨index, before, c :: rest⟩ with
    | some m =>
      rw [hmatch] at hhere
      obtain ⟨q, hq⟩ := hhere.mp rfl
      exact iff_of_true rfl ⟨_, q, .inl rfl, hq⟩
    | none =>
      rw [hmatch] at hhere
      dsimp only
      rw [ih]
      constructor
      · rintro ⟨p, q, hp, hq⟩
        exact ⟨p, q, .inr hp, hq⟩
      · rintro ⟨p, q, rfl | hp, hq⟩
        · exact absurd (hhere.mpr ⟨q, hq⟩) Bool.false_ne_true
        · exact ⟨p, q, hp, hq⟩

/-- An expression occurs in a text if it spans a part of it, from anywhere to anywhere. -/
theorem occursIn_iff (r : Regex) (text : List Char) :
    r.occursIn text = true ↔ ∃ p q, (Place.start text).Leads p ∧ r.Spans p q :=
  isSome_findFrom?_iff r 0 none text

/-- The expression spans the text from its start to its end. -/
def SpansAll (r : Regex) (text : List Char) : Prop :=
  ∃ q, r.Spans (Place.start text) q ∧ q.rest = []

/-- The expression between the anchors of a text. -/
def anchored (r : Regex) : Regex := .cat (.cat (.look Look.textStart) r) (.look Look.textEnd)

theorem occursIn_anchored_iff (r : Regex) (text : List Char) :
    r.anchored.occursIn text = true ↔ r.SpansAll text := by
  rw [occursIn_iff]
  constructor
  · rintro ⟨p, q, hleads, u, ⟨_, ⟨rfl, hstart⟩, hu⟩, rfl, hend⟩
    obtain rfl := hleads.eq_of_before_isNone (Option.isNone_iff_eq_none.mp hstart)
    refine ⟨u, hu, ?_⟩
    simpa [Look.textEnd] using hend
  · rintro ⟨q, hq, hrest⟩
    refine ⟨_, q, .refl _, q, ⟨_, ⟨rfl, rfl⟩, hq⟩, rfl, ?_⟩
    simp [Look.textEnd, hrest]

end RecordFix.Regex
