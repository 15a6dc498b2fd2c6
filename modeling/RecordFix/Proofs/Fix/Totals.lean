import Mathlib.Algebra.Order.BigOperators.Group.List
import Mathlib.Algebra.Order.Ring.Int
import Mathlib.Data.List.Infix
import RecordFix.Fix.Builtin
import RecordFix.Proofs.Path.Replacing

/-!
# Adding up numbers

Numbers are added up in the order in which they stand, and every sum on the way must fit sixty-four
bits (`Collections.FitFrom`). So a sum is exact where there is one (`Builtin.sum_exact`), but there
may be none although the total fits. If the total fits, the numbers can be added up in some order
(`Collections.exists_order_iff`); they can be in every order just if the numbers from zero up and
those below zero have totals that fit (`Collections.every_order_iff`).
-/

namespace RecordFix

theorem Text.fitsInt64_iff {n : Int} :
    Text.fitsInt64 n = true ↔ -0x8000000000000000 ≤ n ∧ n < 0x8000000000000000 := by
  simp [fitsInt64]

namespace Value

/-- The number that a value writes. -/
def number? (v : Value) : Option Int := v.string?.bind fun text => Text.integer? text.toList

/-- The numbers that the items of a value write, arrays among them flattened; none if an item writes
no number. -/
def numbers? (v : Value) : Option (List Int) := (flatten v.toList).mapM number?

theorem forall₂_of_mapM {items : List Value} {ns : List Int} (h : items.mapM number? = some ns) :
    List.Forall₂ (fun item n => item.number? = some n) items ns := by
  induction items generalizing ns with
  | nil =>
    obtain rfl : [] = ns := Option.some.inj h
    exact .nil
  | cons item rest ih =>
    rw [List.mapM_cons] at h
    obtain ⟨n, hn, hrest⟩ := Option.bind_eq_some_iff.mp h
    obtain ⟨ms, hms, hcons⟩ := Option.bind_eq_some_iff.mp hrest
    cases hcons
    exact .cons hn (ih hms)

theorem fits_of_forall₂ {items : List Value} {ns : List Int}
    (h : List.Forall₂ (fun item n => item.number? = some n) items ns) :
    ∀ n ∈ ns, Text.fitsInt64 n = true := by
  induction h with
  | nil => exact fun _ hn => absurd hn List.not_mem_nil
  | cons hitem _ ih =>
    obtain ⟨text, -, hread⟩ := Option.bind_eq_some_iff.mp hitem
    exact List.forall_mem_cons.mpr ⟨(Option.filter_eq_some_iff.mp hread).2, ih⟩

end Value

namespace Collections

open Value

/-- The error of a sum that does not fit. -/
def outOfRange : FixError := .invalidArgument "sum" "sum out of integer range"

/-- Added to a number one after the other, the numbers give sums that fit sixty-four bits. -/
def FitFrom (start : Int) (ns : List Int) : Prop :=
  ∀ first, first <+: ns → Text.fitsInt64 (start + first.sum) = true

instance (start : Int) (ns : List Int) : Decidable (FitFrom start ns) :=
  decidable_of_iff (∀ first ∈ ns.inits, Text.fitsInt64 (start + first.sum) = true)
    (forall_congr' fun first => by rw [List.mem_inits])

theorem fitFrom_nil {start : Int} : FitFrom start [] ↔ Text.fitsInt64 start = true := by
  simp [FitFrom]

theorem fitFrom_cons {start n : Int} {rest : List Int} :
    FitFrom start (n :: rest) ↔ Text.fitsInt64 start = true ∧ FitFrom (start + n) rest := by
  constructor
  · intro h
    refine ⟨by simpa using h [] List.nil_prefix, fun first hfirst => ?_⟩
    have hlonger := h (n :: first) (List.cons_prefix_cons.mpr ⟨rfl, hfirst⟩)
    rwa [List.sum_cons, ← Int.add_assoc] at hlonger
  · rintro ⟨hstart, hrest⟩ first hfirst
    rcases List.prefix_cons_iff.mp hfirst with rfl | ⟨more, rfl, hmore⟩
    · simpa using hstart
    · rw [List.sum_cons, ← Int.add_assoc]
      exact hrest more hmore

/-! ## Adding up -/

theorem addTo_of_number? {item : Value} {n : Int} (h : item.number? = some n) (start : Int) :
    addTo start item =
      if Text.fitsInt64 (start + n) then .ok (start + n) else .error outOfRange := by
  obtain ⟨text, htext, hn⟩ := Option.bind_eq_some_iff.mp h
  cases item with
  | string s =>
    obtain rfl : s = text := Option.some.inj htext
    have hread : addTo start (.string s) = (Arguments.integer s).bind fun n =>
        if Text.fitsInt64 (start + n) then .ok (start + n) else .error outOfRange := rfl
    have hinteger : Arguments.integer s = .ok n := by rw [Arguments.integer, hn]
    rw [hread, hinteger, Except.bind]
  | array | hash => cases htext

theorem foldlM_addTo {items : List Value} {ns : List Int}
    (hns : List.Forall₂ (fun item n => item.number? = some n) items ns) {start : Int}
    (hstart : Text.fitsInt64 start = true) :
    items.foldlM addTo start =
      if FitFrom start ns then .ok (start + ns.sum) else .error outOfRange := by
  induction hns generalizing start with
  | nil =>
    rw [if_pos (fitFrom_nil.mpr hstart), List.sum_nil, Int.add_zero]
    rfl
  | @cons item n rest ms hn _ ih =>
    rw [List.foldlM_cons, addTo_of_number? hn]
    by_cases hfits : Text.fitsInt64 (start + n) = true
    · rw [if_pos hfits]
      refine (ih hfits).trans ?_
      rw [List.sum_cons, Int.add_assoc]
      simp only [fitFrom_cons, hstart, true_and]
    · have hover : ¬ FitFrom start (n :: ms) := fun h =>
        hfits (by simpa using (fitFrom_cons.mp h).2 [] List.nil_prefix)
      rw [if_neg hfits, if_neg hover]
      rfl

/-- A sum is exact, and there is one just if the sums on the way fit. -/
theorem sum_of_numbers? {v : Value} {ns : List Int} (hns : v.numbers? = some ns) :
    sum v = if FitFrom 0 ns then .ok ns.sum else .error outOfRange := by
  rw [sum, foldlM_addTo (forall₂_of_mapM hns) (by decide), Int.zero_add]

/-- The total of the numbers in a value. -/
def total (v : Value) : Value := .string (toString (v.numbers?.getD []).sum)

/-- What a value is replaced by when its items are added up. -/
def addedUp (v : Value) : Except FixError Value :=
  (sum v).map fun n => .string (toString n)

theorem addedUp_of_numbers? {v : Value} {ns : List Int} (hns : v.numbers? = some ns) :
    addedUp v = if FitFrom 0 ns then .ok (total v) else .error outOfRange := by
  rw [addedUp, sum_of_numbers? hns, total, hns]
  by_cases hfit : FitFrom 0 ns
  · rw [if_pos hfit, if_pos hfit]
    rfl
  · rw [if_neg hfit, if_neg hfit]
    rfl

/-! ## Orders -/

/-- The numbers from zero up and those below zero have the total between them. -/
theorem sum_signs (ns : List Int) :
    ns.sum = (ns.filter (0 ≤ ·)).sum + (ns.filter (· < 0)).sum ∧
      0 ≤ (ns.filter (0 ≤ ·)).sum ∧ (ns.filter (· < 0)).sum ≤ 0 := by
  induction ns with
  | nil => exact ⟨rfl, Int.le_refl 0, Int.le_refl 0⟩
  | cons n rest ih =>
    rcases Int.lt_or_le n 0 with hn | hn
    · simp [hn, Int.not_le.mpr hn]
      omega
    · simp [hn, Int.not_lt.mpr hn]
      omega

/-- If the total fits, one of the numbers can be added first: one that leads back towards zero, or
any if they all lead away from it. -/
theorem exists_next {start : Int} {ns : List Int} (hstart : Text.fitsInt64 start = true)
    (hns : ∀ n ∈ ns, Text.fitsInt64 n = true) (htotal : Text.fitsInt64 (start + ns.sum) = true)
    (hne : ns ≠ []) : ∃ n ∈ ns, Text.fitsInt64 (start + n) = true := by
  obtain ⟨n, rest, rfl⟩ := List.exists_cons_of_ne_nil hne
  have hn : n ∈ n :: rest := List.mem_cons_self
  simp only [Text.fitsInt64_iff, List.sum_cons] at hstart hns htotal ⊢
  rcases Int.lt_or_le start 0 with hsign | hsign
  · by_cases hback : ∃ m ∈ n :: rest, 0 ≤ m
    · obtain ⟨m, hm, hsignm⟩ := hback
      have hfits := hns m hm
      exact ⟨m, hm, by omega⟩
    · have haway : ∀ m ∈ n :: rest, m ≤ 0 := fun m hm =>
        Int.le_of_lt (Int.not_le.mp fun h => hback ⟨m, hm, h⟩)
      have hrest := List.sum_le_card_nsmul rest 0 fun m hm => haway m (List.mem_cons_of_mem n hm)
      rw [nsmul_zero] at hrest
      have hsignn := haway n hn
      exact ⟨n, hn, by omega⟩
  · by_cases hback : ∃ m ∈ n :: rest, m ≤ 0
    · obtain ⟨m, hm, hsignm⟩ := hback
      have hfits := hns m hm
      exact ⟨m, hm, by omega⟩
    · have haway : ∀ m ∈ n :: rest, 0 ≤ m := fun m hm =>
        Int.le_of_lt (Int.not_le.mp fun h => hback ⟨m, hm, h⟩)
      have hrest := List.sum_nonneg fun m hm => haway m (List.mem_cons_of_mem n hm)
      have hsignn := haway n hn
      exact ⟨n, hn, by omega⟩

theorem exists_order {start : Int} {ns : List Int} (hstart : Text.fitsInt64 start = true)
    (hns : ∀ n ∈ ns, Text.fitsInt64 n = true) (htotal : Text.fitsInt64 (start + ns.sum) = true) :
    ∃ order, order.Perm ns ∧ FitFrom start order := by
  induction hlength : ns.length generalizing start ns with
  | zero =>
    obtain rfl := List.eq_nil_of_length_eq_zero hlength
    exact ⟨[], List.Perm.refl [], fitFrom_nil.mpr hstart⟩
  | succ k ih =>
    have hne : ns ≠ [] := List.ne_nil_of_length_eq_add_one hlength
    obtain ⟨n, hn, hnext⟩ := exists_next hstart hns htotal hne
    have hperm : ns.Perm (n :: ns.erase n) := List.perm_cons_erase hn
    have hrest : Text.fitsInt64 (start + n + (ns.erase n).sum) = true := by
      rwa [Int.add_assoc, ← List.sum_cons, ← hperm.sum_eq]
    have hshorter : (ns.erase n).length = k := by
      rw [List.length_erase_of_mem hn, hlength, Nat.add_sub_cancel]
    obtain ⟨order, horder, hfit⟩ :=
      ih hnext (fun m hm => hns m (List.mem_of_mem_erase hm)) hrest hshorter
    exact ⟨n :: order, (horder.cons n).trans hperm.symm, fitFrom_cons.mpr ⟨hstart, hfit⟩⟩

/-- Numbers can be added up in some order just if their total fits. -/
theorem exists_order_iff {ns : List Int} (hns : ∀ n ∈ ns, Text.fitsInt64 n = true) :
    (∃ order, order.Perm ns ∧ FitFrom 0 order) ↔ Text.fitsInt64 ns.sum = true := by
  constructor
  · rintro ⟨order, horder, hfit⟩
    rw [← horder.sum_eq, ← Int.zero_add order.sum]
    exact hfit order List.prefix_rfl
  · intro htotal
    exact exists_order (by decide) hns (by rwa [Int.zero_add])

/-- Numbers can be added up in every order just if the totals of those from zero up and of those
below zero fit. -/
theorem every_order_iff (ns : List Int) :
    (∀ order, order.Perm ns → FitFrom 0 order) ↔
      Text.fitsInt64 (ns.filter (0 ≤ ·)).sum = true ∧
        Text.fitsInt64 (ns.filter (· < 0)).sum = true := by
  have hbelow : (ns.filter fun n => !decide (0 ≤ n)) = ns.filter (· < 0) := by
    refine List.filter_congr fun n _ => ?_
    rw [← decide_not, decide_eq_decide]
    exact Int.not_le
  have hsigns : (ns.filter (0 ≤ ·) ++ ns.filter (· < 0)).Perm ns := by
    rw [← hbelow]
    exact List.filter_append_perm _ ns
  constructor
  · intro h
    have hup := h _ hsigns _ (List.prefix_append _ _)
    have hdown := h _ (List.perm_append_comm.trans hsigns) _ (List.prefix_append _ _)
    rw [Int.zero_add] at hup hdown
    exact ⟨hup, hdown⟩
  · rintro ⟨hup, hdown⟩ order horder first ⟨rest, rfl⟩
    -- what comes behind only raises the one total and only lowers the other
    have hups := (horder.filter (0 ≤ ·)).sum_eq
    have hdowns := (horder.filter (· < 0)).sum_eq
    rw [List.filter_append, List.sum_append] at hups hdowns
    have hfirst := sum_signs first
    have hrest := sum_signs rest
    rw [Text.fitsInt64_iff] at hup hdown ⊢
    omega

end Collections

namespace Builtin

open Value Collections

/-- Where every value that a path leads to holds numbers only, each of them is replaced by its exact
total if the sums on the way fit, and the call fails if they do not for one of the values. That a
total fits means that they do in some order of the numbers. They do in every order just if the
totals of the numbers from zero up and of those below zero fit. -/
theorem sum_exact (options : Options) (s : State) (path : String)
    (hnumbers : ∀ v ∈ addressed (Path.ofString path) (.hash s.record.fields), v.numbers?.isSome) :
    let places := addressed (Path.ofString path) (.hash s.record.fields)
    let summed := sum.apply [path] options s
    ((∀ v ∈ places, ∀ ns, v.numbers? = some ns → FitFrom 0 ns) →
      ∃ fields : Hash,
        summed = ⟨{ s with record := { s.record with fields } }, none⟩ ∧
          replaceAlong total (Path.ofString path) (.hash s.record.fields) = .hash fields) ∧
    ((∃ v ∈ places, ∃ ns, v.numbers? = some ns ∧ ¬ FitFrom 0 ns) →
      summed.error = some outOfRange) ∧
    ∀ v ∈ places, ∀ ns, v.numbers? = some ns →
      (Text.fitsInt64 ns.sum = true ↔ ∃ order, order.Perm ns ∧ FitFrom 0 order) ∧
      ((∀ order, order.Perm ns → FitFrom 0 order) ↔
        Text.fitsInt64 (ns.filter (0 ≤ ·)).sum = true ∧
          Text.fitsInt64 (ns.filter (· < 0)).sum = true) := by
  intro places summed
  have hsummed : summed = s.replace path addedUp := rfl
  obtain ⟨hnone, hsome⟩ := s.error_replace path addedUp
  rw [hsummed]
  refine ⟨fun hfit => s.replace_eq_replaceAlong path fun v hv => ?_, ?_, fun v hv ns hns => ?_⟩
  · obtain ⟨ns, hns⟩ := Option.isSome_iff_exists.mp (hnumbers v hv)
    rw [addedUp_of_numbers? hns, if_pos (hfit v hv ns hns)]
  · rintro ⟨v, hv, ns, hns, hover⟩
    have hfails : (s.replace path addedUp).error ≠ none := by
      intro hok
      obtain ⟨w, hw⟩ := hnone.mp hok v hv
      rw [addedUp_of_numbers? hns, if_neg hover] at hw
      cases hw
    obtain ⟨e, he⟩ := Option.ne_none_iff_exists'.mp hfails
    obtain ⟨u, hu, hfailed⟩ := hsome e he
    obtain ⟨ms, hms⟩ := Option.isSome_iff_exists.mp (hnumbers u hu)
    rw [addedUp_of_numbers? hms] at hfailed
    split at hfailed
    · cases hfailed
    · rw [he, Except.error.inj hfailed]
  · exact ⟨(exists_order_iff (fits_of_forall₂ (forall₂_of_mapM hns))).symm, every_order_iff ns⟩

/-- The numbers in a field are added up where the sums on the way fit. -/
theorem sum_exact_pricesSample :
    let prices : Value :=
      .array [.string "9223372036854775807", .array [.string "-1", .string "+01"]]
    let s : State := ⟨{}, .ofFields [("prices", prices), ("id", .string "7")]⟩
    sum.apply ["prices"] [] s =
      ⟨⟨{}, .ofFields [("prices", .string "9223372036854775807"), ("id", .string "7")]⟩, none⟩ := by
  intro prices s
  have hplaces : addressed (Path.ofString "prices") (.hash s.record.fields) = [prices] := by
    decide +kernel
  have hprices : prices.numbers? = some [9223372036854775807, -1, 1] := by decide +kernel
  have hnumbers :
      ∀ v ∈ addressed (Path.ofString "prices") (.hash s.record.fields), v.numbers?.isSome := by
    rw [hplaces, List.forall_mem_singleton, hprices]
    rfl
  obtain ⟨fields, hsummed, hreplaced⟩ := (sum_exact [] s "prices" hnumbers).1 (by
    rw [hplaces, List.forall_mem_singleton, hprices]
    rintro ns ⟨⟩
    decide +kernel)
  have hfields : fields =
      [("prices", .string "9223372036854775807"), ("id", .string "7")] := by
    have hfilled : replaceAlong total (Path.ofString "prices") (.hash s.record.fields) =
        .hash [("prices", .string "9223372036854775807"), ("id", .string "7")] := by
      decide +kernel
    exact Value.hash.inj (hreplaced.symm.trans hfilled)
  rw [hsummed, hfields]
  rfl

/-- Numbers whose total fits are added up in one order and refused in another. -/
theorem sum_refused_in_other_order :
    let largest : Value := .string "9223372036854775807"
    let record (ns : List Value) : Record := .ofFields [("n", .array ns)]
    let sumOf (ns : List Value) : Edited State := sum.apply ["n"] [] ⟨{}, record ns⟩
    (sumOf [largest, .string "-1", .string "1"]).error = none ∧
      (sumOf [largest, .string "-1", .string "1"]).value.record.fields = [("n", largest)] ∧
      (sumOf [largest, .string "1", .string "-1"]).error = some outOfRange := by
  decide +kernel

end Builtin

end RecordFix
