import Mathlib.Data.List.Basic
import Mathlib.Data.String.Basic
import RecordFix.Fix.Builtin
import RecordFix.Proofs.Path.Replacing
import RecordFix.Proofs.Value.FirstOccurrences

/-!
# Sorting

The strings in a value are put in ascending order, of code points or of the numbers that they write,
where strings that write the same number stay in their order (`Collections.Ascending`). The order is
determined by this (`Collections.Ascending.unique`). A hash among the values, or else a string that
writes no number where numbers are wanted, is an error (`Collections.sortsTo_iff`).
-/

namespace RecordFix

/-- The code points of a text. -/
def codePoints (text : String) : List Nat := text.toList.map Char.toNat

theorem map_toNat_lt_iff {xs ys : List Char} :
    xs.map Char.toNat < ys.map Char.toNat ↔ xs < ys := by
  induction xs generalizing ys with
  | nil => cases ys <;> simp
  | cons c rest ih =>
    cases ys with
    | nil => simp
    | cons d more =>
      have hlt : c.toNat < d.toNat ↔ c < d := Iff.rfl
      rw [List.map_cons, List.map_cons, List.cons_lt_cons_iff, List.cons_lt_cons_iff, ih, hlt,
        Char.toNat_inj]

/-- Strings are in the order of their code points. -/
theorem codePoints_le_iff {a b : String} : codePoints a ≤ codePoints b ↔ a ≤ b := by
  rw [String.le_iff_toList_le, ← not_lt, ← not_lt, codePoints, codePoints, map_toNat_lt_iff]

namespace Value

/-! ## Flattened values -/

theorem kind_of_mem_flat (v : Value) : ∀ w ∈ v.flat, w.kind ≠ .array := by
  induction v using induct with
  | string s => simp [flat, kind]
  | hash fields => simp [flat, kind]
  | array items ih =>
    rw [flat, flatten_eq_flatMap, List.forall_mem_flatMap]
    exact ih

/-- Flattened values are strings and hashes. -/
theorem kind_of_mem_flatten (values : List Value) : ∀ w ∈ flatten values, w.kind ≠ .array := by
  rw [flatten_eq_flatMap, List.forall_mem_flatMap]
  exact fun v _ => v.kind_of_mem_flat

/-- Values without arrays are strings only, or there is a first hash among them. -/
theorem texts_or_first_hash {values : List Value} (h : ∀ w ∈ values, w.kind ≠ .array) :
    (∃ texts : List String, values = texts.map .string) ∨
      ∃ (texts : List String) (fields : Hash) (after : List Value),
        values = texts.map .string ++ .hash fields :: after := by
  induction values with
  | nil => exact .inl ⟨[], rfl⟩
  | cons v rest ih =>
    obtain ⟨hv, hrest⟩ := List.forall_mem_cons.mp h
    cases v with
    | array items => exact absurd rfl hv
    | hash fields => exact .inr ⟨[], fields, rest, rfl⟩
    | string s =>
      obtain ⟨texts, rfl⟩ | ⟨texts, fields, after, rfl⟩ := ih hrest
      · exact .inl ⟨s :: texts, rfl⟩
      · exact .inr ⟨s :: texts, fields, after, rfl⟩

/-! ## First occurrences -/

/-- Among the first occurrences of values there is a hash if there is one among the values. -/
theorem exists_hash_uniqueAfter {values : List Value} {fields : Hash} (h : .hash fields ∈ values)
    (kept : List Value) : ∃ other : Hash, .hash other ∈ kept ++ uniqueAfter kept values := by
  induction values generalizing kept with
  | nil => cases h
  | cons v rest ih =>
    rw [uniqueAfter]
    split
    case isFalse hnew =>
      rcases List.mem_cons.mp h with rfl | hrest
      · exact ⟨fields, List.mem_append_right _ List.mem_cons_self⟩
      · obtain ⟨other, hother⟩ := ih hrest (kept ++ [v])
        exact ⟨other, by rwa [List.append_assoc] at hother⟩
    case isTrue hsame =>
      rcases List.mem_cons.mp h with rfl | hrest
      · obtain ⟨w, hw, hw'⟩ := List.any_eq_true.mp hsame
        cases w with
        | hash other => exact ⟨other, List.mem_append_left _ hw⟩
        | string | array => simp [same] at hw'
      · exact ih hrest kept

/-- The first occurrences of strings. -/
theorem uniqueAfter_texts (kept texts : List String) :
    uniqueAfter (kept.map .string) (texts.map .string) =
      ((texts.filter fun t => !kept.contains t).eraseDups).map .string := by
  induction texts generalizing kept with
  | nil => rfl
  | cons t rest ih =>
    have hkept : (kept.map Value.string).any (·.same (.string t)) = kept.contains t := by
      rw [List.any_map, List.contains_eq_any_beq]
      congr 1
      funext other
      simp [same, Bool.beq_comm]
    rw [List.map_cons, uniqueAfter, hkept]
    by_cases hmem : kept.contains t = true
    · rw [if_pos hmem, ih, List.filter_cons_of_neg (by simpa using hmem)]
    · have hfilter : (rest.filter fun u => !(kept ++ [t]).contains u) =
          (rest.filter fun u => !kept.contains u).filter fun u => !u == t := by
        rw [List.filter_filter]
        refine List.filter_congr fun u _ => ?_
        rw [List.contains_append, Bool.not_or, Bool.and_comm, List.contains_cons]
        simp
      have hlonger : kept.map Value.string ++ [.string t] = (kept ++ [t]).map .string := by simp
      rw [if_neg hmem, List.filter_cons_of_pos (by simpa using hmem), List.eraseDups_cons,
        List.map_cons, hlonger, ih, hfilter]

theorem unique_texts (texts : List String) :
    unique (texts.map .string) = texts.eraseDups.map .string := by
  have hnone : (texts.filter fun t => !([] : List String).contains t) = texts := by simp
  have h := uniqueAfter_texts [] texts
  rwa [hnone] at h

end Value

namespace Collections

open Value

section Sequence

variable {α β : Type} {f : α → Except FixError β}

theorem mapM_eq_ok {xs : List α} {g : α → β} (h : ∀ x ∈ xs, f x = .ok (g x)) :
    xs.mapM f = .ok (xs.map g) := by
  induction xs with
  | nil => rfl
  | cons x rest ih =>
    obtain ⟨hx, hrest⟩ := List.forall_mem_cons.mp h
    rw [List.mapM_cons, hx, ih hrest]
    rfl

theorem mapM_eq_error {before after : List α} {x : α} {e : FixError}
    (hbefore : ∀ y ∈ before, ∃ z, f y = .ok z) (hx : f x = .error e) :
    (before ++ x :: after).mapM f = .error e := by
  induction before with
  | nil =>
    rw [List.nil_append, List.mapM_cons, hx]
    rfl
  | cons y rest ih =>
    obtain ⟨⟨z, hz⟩, hrest⟩ := List.forall_mem_cons.mp hbefore
    rw [List.cons_append, List.mapM_cons, hz, ih hrest]
    rfl

end Sequence

/-! ## Order -/

/-- The number that a text writes. -/
def numberOf (text : String) : Int := (Text.integer? text.toList).getD 0

/-- Whether a text may stand in front of another one. -/
def MayPrecede (numeric : Bool) (a b : String) : Prop :=
  if numeric then numberOf a ≤ numberOf b else codePoints a ≤ codePoints b

/-- The texts in ascending order, where texts that write the same number stay in their order. -/
structure Ascending (numeric : Bool) (texts ordered : List String) : Prop where
  perm : ordered.Perm texts
  inOrder : ordered.Pairwise (MayPrecede numeric)
  ties : numeric = true → ∀ n, ordered.filter (numberOf · = n) = texts.filter (numberOf · = n)

instance (numeric : Bool) : DecidableRel (MayPrecede numeric) := fun a b => by
  unfold MayPrecede
  infer_instance

variable {numeric : Bool} {texts ordered others : List String}

theorem mayPrecede_trans (a b c : String) (hab : MayPrecede numeric a b)
    (hbc : MayPrecede numeric b c) : MayPrecede numeric a c := by
  cases numeric with
  | false =>
    show codePoints a ≤ codePoints c
    exact le_trans (b := codePoints b) hab hbc
  | true =>
    show numberOf a ≤ numberOf c
    exact le_trans (b := numberOf b) hab hbc

theorem mayPrecede_total (a b : String) : MayPrecede numeric a b ∨ MayPrecede numeric b a := by
  cases numeric with
  | false => exact le_total (codePoints a) (codePoints b)
  | true => exact le_total (numberOf a) (numberOf b)

theorem ascending_mergeSort (numeric : Bool) (texts : List String) :
    Ascending numeric texts (texts.mergeSort fun a b => decide (MayPrecede numeric a b)) := by
  have htrans (a b c : String) (hab : decide (MayPrecede numeric a b) = true)
      (hbc : decide (MayPrecede numeric b c) = true) : decide (MayPrecede numeric a c) = true :=
    decide_eq_true (mayPrecede_trans a b c (of_decide_eq_true hab) (of_decide_eq_true hbc))
  have htotal (a b : String) :
      (decide (MayPrecede numeric a b) || decide (MayPrecede numeric b a)) = true := by
    rw [Bool.or_eq_true, decide_eq_true_iff, decide_eq_true_iff]
    exact mayPrecede_total a b
  have hperm := List.mergeSort_perm texts fun a b => decide (MayPrecede numeric a b)
  refine ⟨hperm, ?_, fun hnumeric n => ?_⟩
  · exact (List.pairwise_mergeSort htrans htotal texts).imp of_decide_eq_true
  · -- texts that write the same number are in order already, so sorting keeps them as they are
    have hequal : (texts.filter (numberOf · = n)).Pairwise
        fun a b => decide (MayPrecede numeric a b) = true := by
      refine List.pairwise_of_forall_mem_list fun a ha b hb => decide_eq_true ?_
      have hna : numberOf a = n := by simpa using (List.mem_filter.mp ha).2
      have hnb : numberOf b = n := by simpa using (List.mem_filter.mp hb).2
      rw [MayPrecede, if_pos hnumeric, hna, hnb]
    have hkept := (List.sublist_mergeSort htrans htotal hequal List.filter_sublist).filter
      (numberOf · = n)
    rw [List.filter_filter] at hkept
    simp only [Bool.and_self] at hkept
    exact (hkept.eq_of_length (hperm.filter _).length_eq.symm).symm

theorem mem_iff_of_ties
    (hties : ∀ n, ordered.filter (numberOf · = n) = others.filter (numberOf · = n)) (a : String) :
    a ∈ ordered ↔ a ∈ others := by
  have hiff := congrArg (a ∈ ·) (hties (numberOf a))
  simpa [List.mem_filter] using hiff

theorem numberOf_head_le {a b : String} (h : (a :: ordered).Pairwise (MayPrecede true))
    (hb : b ∈ a :: ordered) : numberOf a ≤ numberOf b := by
  rcases List.mem_cons.mp hb with rfl | hin
  · exact Int.le_refl _
  · exact (List.pairwise_cons.mp h).1 b hin

/-- Two lists in ascending order of numbers are the same if they have the same texts for each number
in the same order. -/
theorem eq_of_ties (h : ordered.Pairwise (MayPrecede true)) (h' : others.Pairwise (MayPrecede true))
    (hties : ∀ n, ordered.filter (numberOf · = n) = others.filter (numberOf · = n)) :
    ordered = others := by
  induction ordered generalizing others with
  | nil =>
    exact (List.eq_nil_iff_forall_not_mem.mpr fun a ha =>
      nomatch (mem_iff_of_ties hties a).mpr ha).symm
  | cons a rest ih =>
    cases others with
    | nil => exact nomatch (mem_iff_of_ties hties a).mp List.mem_cons_self
    | cons b more =>
      have hle : numberOf a ≤ numberOf b :=
        numberOf_head_le h ((mem_iff_of_ties hties b).mpr List.mem_cons_self)
      have hge : numberOf b ≤ numberOf a :=
        numberOf_head_le h' ((mem_iff_of_ties hties a).mp List.mem_cons_self)
      have hsame : numberOf a = numberOf b := Int.le_antisymm hle hge
      -- the first texts write the same number, and both come first among the texts that write it
      have hfirst := hties (numberOf b)
      rw [List.filter_cons_of_pos (by simpa using hsame),
        List.filter_cons_of_pos (by simp)] at hfirst
      obtain rfl : a = b := (List.cons.inj hfirst).1
      have hties' (n : Int) : rest.filter (numberOf · = n) = more.filter (numberOf · = n) := by
        have hn := hties n
        rw [List.filter_cons, List.filter_cons] at hn
        split at hn
        · exact (List.cons.inj hn).2
        · exact hn
      rw [ih h.of_cons h'.of_cons hties']

/-- There is only one ascending order. -/
theorem Ascending.unique (h : Ascending numeric texts ordered)
    (h' : Ascending numeric texts others) : ordered = others := by
  cases numeric with
  | true =>
    exact eq_of_ties h.inOrder h'.inOrder fun n => (h.ties rfl n).trans (h'.ties rfl n).symm
  | false =>
    refine List.Perm.eq_of_pairwise (fun a b _ _ hab hba => ?_) h.inOrder h'.inOrder
      (h.perm.trans h'.perm.symm)
    exact String.le_antisymm (codePoints_le_iff.mp hab) (codePoints_le_iff.mp hba)

/-! ## Sorting texts -/

/-- All texts, or the first occurrence of each. -/
def occurrences (uniq : Bool) (texts : List String) : List String :=
  if uniq then texts.eraseDups else texts

theorem keyed_of_isSome {text : String} (h : (Text.integer? text.toList).isSome) :
    keyed text = .ok (numberOf text, text) := by
  obtain ⟨n, hn⟩ := Option.isSome_iff_exists.mp h
  rw [keyed, Arguments.integer, numberOf, hn]
  rfl

theorem keyed_of_none {text : String} (h : Text.integer? text.toList = none) :
    keyed text = .error (.numberFormat text) := by
  rw [keyed, Arguments.integer, h]
  rfl

/-- Texts are sorted by the numbers that they write. -/
theorem sorted_true (texts : List String) :
    sorted true texts = (texts.mapM keyed).map fun numbers =>
      (numbers.mergeSort fun a b => a.1 ≤ b.1).map (·.2) := rfl

theorem sorted_eq_mergeSort
    (h : numeric = true → ∀ t ∈ texts, (Text.integer? t.toList).isSome) :
    sorted numeric texts = .ok (texts.mergeSort fun a b => decide (MayPrecede numeric a b)) := by
  cases numeric with
  | false =>
    have hbefore : (fun a b : String => decide (a ≤ b)) =
        fun a b => decide (MayPrecede false a b) := by
      funext a b
      exact decide_eq_decide.mpr codePoints_le_iff.symm
    rw [← hbefore]
    rfl
  | true =>
    have hkeyed : texts.mapM keyed = .ok (texts.map fun t => (numberOf t, t)) :=
      mapM_eq_ok fun t ht => keyed_of_isSome (h rfl t ht)
    let pairs := texts.map fun t => (numberOf t, t)
    have hsnd : pairs.map (·.2) = texts := by
      rw [List.map_map]
      exact List.map_id texts
    have hbefore : ∀ a ∈ pairs, ∀ b ∈ pairs,
        decide (a.1 ≤ b.1) = decide (MayPrecede true a.2 b.2) := by
      rw [List.forall_mem_map]
      intro t _
      rw [List.forall_mem_map]
      intro u _
      rfl
    have hmerged := List.map_mergeSort (s := fun a b => decide (MayPrecede true a b)) hbefore
    rw [sorted_true, hkeyed, Except.map, hmerged, hsnd]

theorem sorted_of_first {before after : List String} {text : String}
    (hbefore : ∀ t ∈ before, (Text.integer? t.toList).isSome)
    (htext : Text.integer? text.toList = none) :
    sorted true (before ++ text :: after) = .error (.numberFormat text) := by
  have hkeyed : (before ++ text :: after).mapM keyed = .error (.numberFormat text) :=
    mapM_eq_error (fun t ht => ⟨_, keyed_of_isSome (hbefore t ht)⟩) (keyed_of_none htext)
  rw [sorted_true, hkeyed]
  rfl

/-! ## Sorting values -/

section Values

variable {reverse uniq : Bool} {v : Value}

theorem sort_of_texts (h : flatten v.toList = texts.map .string) :
    sort numeric reverse uniq v = (sorted numeric (occurrences uniq texts)).map fun ordered =>
      .ofStrings (if reverse then ordered.reverse else ordered) := by
  have hstrings : (if uniq then unique (flatten v.toList) else flatten v.toList).mapM asString =
      .ok (occurrences uniq texts) := by
    have hvalues : (if uniq then unique (flatten v.toList) else flatten v.toList) =
        (occurrences uniq texts).map .string := by
      rw [h, unique_texts, occurrences]
      cases uniq <;> rfl
    have hids : ∀ t ∈ occurrences uniq texts, asString (.string t) = .ok (id t) :=
      fun _ _ => rfl
    rw [hvalues, List.mapM_map, Function.comp_def, mapM_eq_ok hids, List.map_id]
  rw [sort, hstrings]
  rfl

theorem sort_of_hash {fields : Hash} (h : .hash fields ∈ flatten v.toList) :
    sort numeric reverse uniq v = .error (.typeMismatch .string .hash) := by
  let values := if uniq then unique (flatten v.toList) else flatten v.toList
  have hkind : ∀ w ∈ values, w.kind ≠ .array := by
    intro w hw
    refine kind_of_mem_flatten v.toList w ?_
    show w ∈ flatten v.toList
    cases uniq with
    | false => exact hw
    | true => exact (uniqueAfter_sublist [] _).subset hw
  have hhash : ∃ other : Hash, .hash other ∈ values := by
    cases uniq with
    | false => exact ⟨fields, h⟩
    | true => exact exists_hash_uniqueAfter h []
  have hfails : values.mapM asString = .error (.typeMismatch .string .hash) := by
    obtain ⟨texts, htexts⟩ | ⟨texts, first, after, hfirst⟩ := texts_or_first_hash hkind
    · obtain ⟨other, hother⟩ := hhash
      rw [htexts] at hother
      simp at hother
    · rw [hfirst]
      refine mapM_eq_error ?_ rfl
      rw [List.forall_mem_map]
      exact fun t _ => ⟨t, rfl⟩
  show (values.mapM asString).bind _ = _
  rw [hfails]
  rfl

end Values

/-- What sorting a value comes to. -/
inductive SortsTo (numeric reverse uniq : Bool) (v : Value) : Except FixError Value → Prop where
  /-- A hash among the flattened elements is an error. -/
  | hash {fields : Hash} (h : .hash fields ∈ flatten v.toList) :
    SortsTo numeric reverse uniq v (.error (.typeMismatch .string .hash))
  /-- The first string that writes no number is an error where numbers are wanted. -/
  | noNumber {texts before after : List String} {text : String}
    (hall : flatten v.toList = texts.map .string)
    (hfirst : occurrences uniq texts = before ++ text :: after) (hnumeric : numeric = true)
    (hbefore : ∀ t ∈ before, (Text.integer? t.toList).isSome)
    (htext : Text.integer? text.toList = none) :
    SortsTo numeric reverse uniq v (.error (.numberFormat text))
  /-- The strings are put in ascending order, or in the reverse of that order. -/
  | sorted {texts ordered : List String} (hall : flatten v.toList = texts.map .string)
    (hnumbers : numeric = true → ∀ t ∈ occurrences uniq texts, (Text.integer? t.toList).isSome)
    (hordered : Ascending numeric (occurrences uniq texts) ordered) :
    SortsTo numeric reverse uniq v
      (.ok (.ofStrings (if reverse then ordered.reverse else ordered)))

theorem sort_of_sortsTo {reverse uniq : Bool} {v : Value} {r : Except FixError Value}
    (h : SortsTo numeric reverse uniq v r) : sort numeric reverse uniq v = r := by
  cases h with
  | hash h => exact sort_of_hash h
  | noNumber hall hfirst hnumeric hbefore htext =>
    rw [sort_of_texts hall, hfirst, hnumeric, sorted_of_first hbefore htext]
    rfl
  | sorted hall hnumbers hordered =>
    rw [sort_of_texts hall, sorted_eq_mergeSort hnumbers,
      (ascending_mergeSort numeric _).unique hordered]
    rfl

theorem sortsTo_sort (numeric reverse uniq : Bool) (v : Value) :
    SortsTo numeric reverse uniq v (sort numeric reverse uniq v) := by
  obtain ⟨texts, hall⟩ | ⟨texts, fields, after, hall⟩ :=
    texts_or_first_hash (kind_of_mem_flatten v.toList)
  · by_cases hnumbers :
        numeric = true → ∀ t ∈ occurrences uniq texts, (Text.integer? t.toList).isSome
    · rw [sort_of_texts hall, sorted_eq_mergeSort hnumbers]
      exact .sorted hall hnumbers (ascending_mergeSort numeric _)
    · obtain ⟨rfl, hnone⟩ := Classical.not_imp.mp hnumbers
      have hfound : ((occurrences uniq texts).find?
          fun t => !(Text.integer? t.toList).isSome).isSome := by
        rw [List.find?_isSome]
        simpa using hnone
      obtain ⟨text, htext⟩ := Option.isSome_iff_exists.mp hfound
      obtain ⟨hno, before, after, hfirst, hbefore⟩ := List.find?_eq_some_iff_append.mp htext
      have hno' : Text.integer? text.toList = none := by simpa using hno
      have hbefore' : ∀ t ∈ before, (Text.integer? t.toList).isSome := by simpa using hbefore
      rw [sort_of_texts hall, hfirst, sorted_of_first hbefore' hno']
      exact .noNumber hall hfirst rfl hbefore' hno'
  · have hhash : .hash fields ∈ flatten v.toList := by
      rw [hall]
      exact List.mem_append_right _ List.mem_cons_self
    rw [sort_of_hash hhash]
    exact .hash hhash

/-- Sorting a value comes to what it should, and to nothing else. -/
theorem sortsTo_iff {reverse uniq : Bool} {v : Value} {r : Except FixError Value} :
    SortsTo numeric reverse uniq v r ↔ sort numeric reverse uniq v = r :=
  ⟨sort_of_sortsTo, fun h => h ▸ sortsTo_sort numeric reverse uniq v⟩

end Collections

namespace Builtin

open Value Collections

/-- Sorting comes to one thing for every value, whatever the options say. Each value that a path
leads to is replaced by what sorting it gives, and the call fails if one of them cannot be sorted,
with the error for the first of these. -/
theorem sortField_sorts (options : Options) (s : State) (path : String) (more : List String) :
    let sorts := SortsTo (options.isTrue "numeric") (options.isTrue "reverse")
      (options.isTrue "uniq")
    let places := addressed (Path.ofString path) (.hash s.record.fields)
    let call := sortField.apply (path :: more) options s
    (∀ v, ∃! r, sorts v r) ∧
    (∀ g : Value → Value, (∀ v ∈ places, sorts v (.ok (g v))) →
      ∃ fields : Hash,
        call = ⟨{ s with record := { s.record with fields } }, none⟩ ∧
          replaceAlong g (Path.ofString path) (.hash s.record.fields) = .hash fields) ∧
    ∀ before v after e, places = before ++ v :: after → (∀ w ∈ before, ∃ u, sorts w (.ok u)) →
      sorts v (.error e) → call.error = some e := by
  intro sorts places call
  have hcall : call = s.replace path (Collections.sort (options.isTrue "numeric")
      (options.isTrue "reverse") (options.isTrue "uniq")) := rfl
  rw [hcall]
  refine ⟨fun v => ⟨_, sortsTo_sort _ _ _ v, fun r hr => (sort_of_sortsTo hr).symm⟩, ?_, ?_⟩
  · intro g hg
    exact s.replace_eq_replaceAlong path fun v hv => sort_of_sortsTo (hg v hv)
  · intro before v after e hplaces hbefore hv
    exact s.error_replace_of_first path hplaces
      (fun w hw => (hbefore w hw).imp fun _ => sort_of_sortsTo) (sort_of_sortsTo hv)

/-- Numbers are sorted downwards, and texts for the same number are turned round with the rest. -/
theorem sortField_sorts_sizesSample :
    let sizes : Value := .array [.string "10", .array [.string "9", .string "+10"], .string "09"]
    let ordered : Value := .ofStrings ["+10", "10", "09", "9"]
    let options : Options := [("numeric", "true"), ("reverse", "TRUE")]
    let s : State := ⟨{}, .ofFields [("sizes", sizes), ("id", .string "7")]⟩
    sortField.apply ["sizes"] options s =
      ⟨⟨{}, .ofFields [("sizes", ordered), ("id", .string "7")]⟩, none⟩ := by
  intro sizes ordered options s
  have hnumbers : numberOf "9" = 9 ∧ numberOf "09" = 9 ∧ numberOf "10" = 10 ∧
      numberOf "+10" = 10 := by decide
  have hascending : Ascending true ["10", "9", "+10", "09"] ["9", "09", "10", "+10"] := by
    refine ⟨by decide, by decide, fun _ n => ?_⟩
    simp only [List.filter_cons, List.filter_nil, hnumbers, decide_eq_true_eq]
    by_cases h : 9 = n <;> by_cases h' : 10 = n <;> simp only [h, h', if_true, if_false]
    omega
  have hsorts : SortsTo true true false sizes (.ok ordered) := by
    have hall : Value.flatten sizes.toList = ["10", "9", "+10", "09"].map .string := by decide
    have hwritten : true = true → ∀ t ∈ occurrences false ["10", "9", "+10", "09"],
        (Text.integer? t.toList).isSome := fun _ => by decide
    exact @SortsTo.sorted true true false sizes _ _ hall hwritten hascending
  have hplaces : addressed (Path.ofString "sizes") (.hash s.record.fields) = [sizes] := by
    decide +kernel
  obtain ⟨fields, hcall, hfields⟩ := (sortField_sorts options s "sizes" []).2.1 (fun _ => ordered)
    (by rw [hplaces, List.forall_mem_singleton]; exact hsorts)
  have hreplaced : replaceAlong (fun _ => ordered) (Path.ofString "sizes") (.hash s.record.fields) =
      .hash [("sizes", ordered), ("id", .string "7")] := by decide +kernel
  rw [hcall, Value.hash.inj (hfields.symm.trans hreplaced)]
  rfl

end Builtin

end RecordFix
