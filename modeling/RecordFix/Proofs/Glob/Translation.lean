import Mathlib.Data.List.Induction
import RecordFix.Proofs.Glob.Grammar
import RecordFix.Proofs.Regex.Enclosing

/-!
# Globs as expressions

A glob is read as a regular expression that its parts are translated to one by one. Reading the
text of that expression keeps to the parts (`Glob.run_parts`), and what has been read spans what
fits the parts so far. So a pattern whose expression is valid names a field if the name as a whole fits
one of the alternatives (`FieldPattern.holds_ofString`).
-/

namespace RecordFix

open Regex Reader

/-! ## Runs without comments -/

namespace Regex.Reader

variable {r : Reader} {text rest : List Char}

/-- Reads to the end of a text. -/
def run (r : Reader) (text : List Char) : Option Reader := readAll text.length r text

theorem skip_of_verbose {f : Flags} (h : f.verbose = false) (text : List Char) :
    f.skip text = text := by
  simp [Flags.skip, h]

theorem run_cons (h : r.flags.verbose = false) (c : Char) (rest : List Char) :
    r.run (c :: rest) = (r.step c rest).bind fun (r, rest) => r.run rest := by
  rw [run, List.length_cons, readAll_of_skip_cons (skip_of_verbose h _)]
  refine Option.bind_congr fun next hstep => ?_
  exact readAll_fuel (step_suffix hstep).length_le (Nat.le_refl _)

/-- The signs of the notation. -/
def signs : List Char := ['(', ')', '|', '[', '?', '*', '+', '\x7b', '\\', '.', '^', '$']

theorem step_plain {c : Char} (h : c ∉ signs) (rest : List Char) :
    r.step c rest = some (r.addSet (r.flags.literal c) 0, rest) := by
  unfold step
  split <;> first
    | rfl
    | exact absurd (by decide) h

end Regex.Reader

/-! ## What has been read spans -/

namespace Regex

theorem regex_sequence (elements : List Element) : (sequence elements).regex =
    match elements.reverse.map Element.toPart with
    | [] => .empty
    | part :: rest => rest.foldl (fun r q => .cat r q.regex) part.regex := by
  unfold sequence
  split <;> simp [*]

theorem spans_sequence_cons {part : Part} {elements : List Element} {p q : Place} :
    (sequence (.part part :: elements)).regex.Spans p q ↔
      ∃ u, (sequence elements).regex.Spans p u ∧ part.regex.Spans u q := by
  rw [regex_sequence, regex_sequence, List.reverse_cons, List.map_append]
  cases elements.reverse.map Element.toPart with
  | nil => simp [Element.toPart, Spans]
  | cons first rest => simp [Element.toPart, Spans]

theorem spans_foldl_alt {parts : List Part} {r : Regex} {p q : Place} :
    (parts.foldl (fun r part => .alt r part.regex) r).Spans p q ↔
      r.Spans p q ∨ ∃ part ∈ parts, part.regex.Spans p q := by
  induction parts generalizing r with
  | nil => simp
  | cons part rest ih =>
    rw [List.foldl_cons, ih]
    simp [Spans, or_assoc]

theorem spans_choice {alternatives : List Part} {last : Part} {p q : Place} :
    (choice alternatives last).regex.Spans p q ↔
      (∃ part ∈ alternatives, part.regex.Spans p q) ∨ last.regex.Spans p q := by
  have hmem (part : Part) : part ∈ (last :: alternatives).reverse ↔
      part ∈ alternatives ∨ part = last := by simp
  have hall : (choice alternatives last).regex.Spans p q ↔
      ∃ part ∈ (last :: alternatives).reverse, part.regex.Spans p q := by
    unfold choice
    split
    · next heq => simp at heq
    · next heq =>
      rw [heq]
      simp
    · next heq =>
      rw [heq]
      simp [spans_foldl_alt]
  rw [hall]
  simp only [hmem, or_and_right, exists_or, exists_eq_left]

theorem deepest_le {parts : List Part} {n : Nat} (h : ∀ part ∈ parts, part.nesting ≤ n) :
    deepest parts ≤ n := by
  have hfrom (m : Nat) (hm : m ≤ n) : parts.foldl (fun n p => max n p.nesting) m ≤ n := by
    induction parts generalizing m with
    | nil => exact hm
    | cons part rest ih =>
      obtain ⟨hpart, hrest⟩ := List.forall_mem_cons.mp h
      exact ih hrest _ (Nat.max_le.mpr ⟨hm, hpart⟩)
  exact hfrom 0 (Nat.zero_le n)

theorem nesting_sequence_le {elements : List Element} {n : Nat}
    (h : ∀ e ∈ elements, e.toPart.nesting ≤ n) : (sequence elements).nesting ≤ n + 1 := by
  have hparts : ∀ part ∈ elements.reverse.map Element.toPart, part.nesting ≤ n := by simpa using h
  unfold sequence
  split
  · exact Nat.zero_le _
  · next heq =>
    rw [heq] at hparts
    exact Nat.le_succ_of_le (hparts _ List.mem_cons_self)
  · next heq =>
    rw [heq] at hparts
    exact Nat.succ_le_succ (deepest_le hparts)

theorem nesting_choice_le {alternatives : List Part} {last : Part} {n : Nat}
    (h : ∀ part ∈ alternatives, part.nesting ≤ n) (hlast : last.nesting ≤ n) :
    (choice alternatives last).nesting ≤ n + 1 := by
  have hparts : ∀ part ∈ (last :: alternatives).reverse, part.nesting ≤ n := by
    intro part hpart
    rcases List.mem_cons.mp (List.mem_reverse.mp hpart) with rfl | hpart
    · exact hlast
    · exact h part hpart
  unfold choice
  split
  · exact Nat.le_succ_of_le hlast
  · next heq =>
    rw [heq] at hparts
    exact Nat.le_succ_of_le (hparts _ List.mem_cons_self)
  · next heq =>
    rw [heq] at hparts
    exact Nat.succ_le_succ (deepest_le hparts)

end Regex

/-! ## Classes -/

namespace Glob

variable {m : Char} {members more rest : List Char} {negated : Bool}

theorem quoteMember_cases (m : Char) :
    (m ∈ ['\\', '[', '&', '~'] ∧ quoteMember m = ['\\', m]) ∨
      (m ∉ ['\\', '[', '&', '~'] ∧ quoteMember m = [m]) := by
  by_cases hm : m ∈ ['\\', '[', '&', '~']
  · exact .inl ⟨hm, if_pos (by simpa [or_assoc] using hm)⟩
  · exact .inr ⟨hm, if_neg (by simpa [and_assoc] using hm)⟩

theorem quoteMember_eq_cons (m : Char) :
    ∃ d tail, quoteMember m = d :: tail ∧ (d = '\\' ∨ d = m) := by
  rcases quoteMember_cases m with ⟨-, hquote⟩ | ⟨-, hquote⟩
  · exact ⟨'\\', [m], hquote, .inl rfl⟩
  · exact ⟨m, [], hquote, .inr rfl⟩

/-- A member is read as itself, whatever comes next but for a minus sign. -/
theorem readClassRange_quoteMember (hmore : ∃ d tail, more = d :: tail ∧ d ≠ '-') :
    readClassRange {} (quoteMember m ++ more) = some (.single m, more) := by
  obtain ⟨d, tail, rfl, hd⟩ := hmore
  have hsingle : readRangeFrom {} (.literal m false) (d :: tail) = some (.single m, d :: tail) := by
    simp [readRangeFrom, hd, classItemSet?]
  have hitem :
      readClassItem {} (quoteMember m ++ d :: tail) = some (.literal m false, d :: tail) := by
    rcases quoteMember_cases m with ⟨hm, hquote⟩ | ⟨hm, hquote⟩
    · rw [hquote]
      simp only [List.mem_cons, List.not_mem_nil, or_false] at hm
      rcases hm with rfl | rfl | rfl | rfl <;> rfl
    · rw [hquote]
      have hm : m ≠ '\\' := fun h => hm (by simp [h])
      simp [readClassItem]
  rw [readClassRange_eq, hitem]
  exact hsingle

theorem readClass_quoteMember (hminus : m ≠ '-') (hclose : m ≠ ']')
    (hmore : ∃ d tail, more = d :: tail ∧ d ≠ '-') (fuel : Nat) (pending : List Pending)
    (listed : CharSet) :
    readClass {} (fuel + 1) pending listed (quoteMember m ++ more) =
      readClass {} fuel pending (listed.union (.single m)) more := by
  have hrange := readClassRange_quoteMember (m := m) hmore
  rcases quoteMember_cases m with ⟨-, hquote⟩ | ⟨hm, hquote⟩
  · rw [hquote, List.cons_append, List.singleton_append] at hrange ⊢
    rw [readClass_plain (skip_of_verbose rfl _) (by decide) (by decide) fun _ => rfl, hrange]
    rfl
  · obtain ⟨-, hopen, hand, htilde⟩ : m ≠ '\\' ∧ m ≠ '[' ∧ m ≠ '&' ∧ m ≠ '~' := by simpa using hm
    have hop : setOp? m = none := by simp [setOp?, hand, hminus, htilde]
    rw [hquote, List.singleton_append] at hrange ⊢
    rw [readClass_plain (skip_of_verbose rfl _) hopen hclose fun _ => hop, hrange]
    rfl

theorem exists_head_members (hminus : '-' ∉ members) :
    ∃ d tail, members.flatMap quoteMember ++ ']' :: rest = d :: tail ∧ d ≠ '-' := by
  cases members with
  | nil => exact ⟨']', rest, rfl, by decide⟩
  | cons m members =>
    obtain ⟨d, tail, hquote, hd⟩ := quoteMember_eq_cons m
    refine ⟨d, tail ++ members.flatMap quoteMember ++ ']' :: rest, by simp [hquote], ?_⟩
    rcases hd with rfl | rfl
    · decide
    · exact fun h => hminus (h ▸ List.mem_cons_self)

theorem readClass_members (hminus : '-' ∉ members) (hclose : ']' ∉ members) {fuel : Nat}
    (hfuel : members.length < fuel) (listed : CharSet) :
    readClass {} fuel [.bracket .empty negated] listed
        (members.flatMap quoteMember ++ ']' :: rest) =
      (finishSet {} negated (members.foldl (fun s m => s.union (.single m)) listed)).map
        fun s => (s, rest) := by
  induction members generalizing fuel listed with
  | nil =>
    obtain _ | fuel := fuel
    · cases hfuel
    rw [List.flatMap_nil, List.nil_append, readClass_close (skip_of_verbose rfl _)]
    change (finishSet {} negated listed).bind _ = (finishSet {} negated listed).map _
    cases finishSet {} negated listed <;> rfl
  | cons m members ih =>
    obtain _ | fuel := fuel
    · cases hfuel
    obtain ⟨hm, hminus⟩ := not_or.mp (mt List.mem_cons.mpr hminus)
    obtain ⟨hbracket, hclose⟩ := not_or.mp (mt List.mem_cons.mpr hclose)
    rw [List.flatMap_cons, List.append_assoc,
      readClass_quoteMember (Ne.symm hm) (Ne.symm hbracket) (exists_head_members hminus)]
    exact ih hminus hclose (Nat.lt_of_succ_lt_succ hfuel) _

/-- The class lists characters as one in brackets may, and no minus sign among them. -/
structure Plain (negated : Bool) (members : List Char) : Prop where
  ne_nil : members ≠ []
  closing : ']' ∉ members
  minus : '-' ∉ members
  sign : negated = false → members.head? ≠ some '^'

theorem Plain.of_writesClass {body : List Char} (h : WritesClass body negated members)
    (hminus : '-' ∉ members) : Plain negated members := by
  cases h with
  | listed hne hclosing _ hsign => exact ⟨hne, hclosing, hminus, fun _ => hsign⟩
  | unlisted _ hne hclosing => exact ⟨hne, hclosing, hminus, nofun⟩

theorem foldl_union_single (members : List Char) (listed : CharSet) (c : Char) :
    members.foldl (fun s m => s.union (.single m)) listed c = (listed c || members.contains c) := by
  induction members generalizing listed with
  | nil => simp
  | cons m members ih =>
    rw [List.foldl_cons, ih, List.contains_cons, CharSet.union_apply, CharSet.single_apply,
      Bool.or_assoc]

/-- The characters that a part stands for, as a set. -/
def Part.set : Part → CharSet
  | .anyChar => (CharSet.single '\n').compl
  | .class negated members =>
    let listed := members.foldl (fun s m => s.union (.single m)) .empty
    if negated then listed.compl else listed
  | .char d => .single d
  | .anyChars | .bar => .empty

theorem set_apply (p : Part) (c : Char) : p.set c = p.admits c := by
  cases p with
  | «class» negated members =>
    cases negated <;> simp [Part.set, Part.admits, foldl_union_single]
  | _ => simp [Part.set, Part.admits, bne]

theorem length_le_flatMap_quoteMember (members : List Char) :
    members.length ≤ (members.flatMap quoteMember).length := by
  induction members with
  | nil => exact Nat.le_refl 0
  | cons m members ih =>
    obtain ⟨d, tail, hquote, -⟩ := quoteMember_eq_cons m
    rw [List.flatMap_cons, hquote, List.length_append, List.length_cons, List.length_cons]
    omega

theorem openClass_members (h : Plain negated members) :
    openClass {} ((if negated then ['^'] else []) ++ members.flatMap quoteMember ++ ']' :: rest) =
      (negated, .empty, members.flatMap quoteMember ++ ']' :: rest) := by
  obtain ⟨m, more, rfl⟩ := List.exists_cons_of_ne_nil h.ne_nil
  obtain ⟨d, tail, hquote, hd⟩ := quoteMember_eq_cons m
  have hne {c : Char} (hc : '\\' ≠ c) (hm : m ≠ c) : d ≠ c := by
    rcases hd with rfl | rfl
    · exact hc
    · exact hm
  have hminus : d ≠ '-' := hne (by decide) fun hm => h.minus (hm ▸ List.mem_cons_self)
  have hclose : d ≠ ']' := hne (by decide) fun hm => h.closing (hm ▸ List.mem_cons_self)
  have hstart (rest : List Char) :
      classStart {} negated (d :: rest) = (negated, .empty, d :: rest) := by
    simp [classStart, hminus, hclose]
  rw [List.flatMap_cons, hquote, openClass_eq]
  cases negated with
  | true => exact hstart _
  | false =>
    have hsign : d ≠ '^' := hne (by decide) fun hm => h.sign rfl (congrArg some hm)
    have hplain (rest : List Char) : classSign {} (d :: rest) = (false, d :: rest) := by
      simp [classSign, skip_of_verbose, hsign]
    simp only [Bool.false_eq_true, if_false, List.nil_append, List.cons_append, hplain, hstart]

/-- A class is read as the set of the characters that it lists, or of the others. -/
theorem bracket_members (h : Plain negated members) {r : Reader} (hflags : r.flags = {}) :
    r.bracket ((if negated then ['^'] else []) ++ members.flatMap quoteMember ++ ']' :: rest) =
      some (r.addSet (Part.class negated members).set 1, rest) := by
  have hset : finishSet {} negated (members.foldl (fun s m => s.union (.single m)) .empty) =
      some (Part.class negated members).set := by
    cases negated <;> rfl
  have hfuel : members.length < (members.flatMap quoteMember ++ ']' :: rest).length + 1 := by
    have := length_le_flatMap_quoteMember members
    rw [List.length_append]
    omega
  simp only [bracket, hflags, openClass_members h]
  rw [readClass_members h.minus h.closing hfuel, hset]
  rfl

/-! ## Characters -/

/-- The characters that are written with a backslash. -/
def quoted : List Char :=
  ['\\', '.', '+', '*', '?', '(', ')', '|', '[', ']', '\x7b', '\x7d', '^', '$', '#', '&', '-', '~']

theorem quoteChar_eq (c : Char) : quoteChar c = if c ∈ quoted then ['\\', c] else [c] := by
  have hlist : "\\.+*?()|[]\x7b\x7d^$#&-~".toList = quoted := rfl
  rw [quoteChar, hlist]
  exact if_congr List.contains_iff_mem rfl rfl

theorem signs_quoted : ∀ c ∈ signs, c ∈ quoted := by simp [signs, quoted]

theorem readEscape_quoted {c : Char} (hc : c ∈ quoted) (rest : List Char) :
    readEscape {} (c :: rest) = some (.literal c false, rest) := by
  simp only [quoted, List.mem_cons, List.not_mem_nil, or_false] at hc
  rcases hc with rfl | rfl | rfl | rfl | rfl | rfl | rfl | rfl | rfl | rfl | rfl | rfl | rfl | rfl |
    rfl | rfl | rfl | rfl <;> rfl

theorem run_quoteChar {r : Reader} (hflags : r.flags = {}) (c : Char) (rest : List Char) :
    r.run (quoteChar c ++ rest) = (r.addSet (.single c) 0).run rest := by
  have hverbose : r.flags.verbose = false := by rw [hflags]
  rw [quoteChar_eq]
  split
  · next hc =>
    have hescape : r.step '\\' (c :: rest) = some (r.addSet (.single c) 0, rest) := by
      change r.escape (c :: rest) = _
      rw [escape_eq, hflags, readEscape_quoted hc]
      simp [addPrimitive, Primitive.set?, hflags, Flags.literal, Flags.foldSet]
    rw [List.cons_append, List.singleton_append, run_cons hverbose, hescape]
    rfl
  · next hc =>
    have hplain : c ∉ signs := mt (signs_quoted c) hc
    rw [List.singleton_append, run_cons hverbose, step_plain hplain, hflags]
    rfl

/-! ## Parts -/

/-- A text that fits the parts stands between two places. -/
def SpansFit (ps : List Part) (p q : Place) : Prop := ∃ text, Fits ps text ∧ p.Passes text q

theorem spansFit_append {ps qs : List Part} {p q : Place} :
    SpansFit (ps ++ qs) p q ↔ ∃ u, SpansFit ps p u ∧ SpansFit qs u q := by
  constructor
  · rintro ⟨text, hfits, hpasses⟩
    obtain ⟨first, last, rfl, hfirst, hlast⟩ := fits_append.mp hfits
    obtain ⟨u, hu, hq⟩ := Place.passes_append_iff.mp hpasses
    exact ⟨u, ⟨first, hfirst, hu⟩, last, hlast, hq⟩
  · rintro ⟨u, ⟨first, hfirst, hu⟩, last, hlast, hq⟩
    exact ⟨first ++ last, fits_append.mpr ⟨first, last, rfl, hfirst, hlast⟩, hu.append hq⟩

theorem spans_char_iff {p : Part} (hp : p ≠ .anyChars) (x y : Place) :
    Regex.Spans (.char p.set) x y ↔ SpansFit [p] x y := by
  constructor
  · rintro ⟨c, hc, hpasses⟩
    exact ⟨[c], (fits_single hp).mpr ⟨c, set_apply p c ▸ hc, rfl⟩, hpasses⟩
  · rintro ⟨text, hfits, hpasses⟩
    obtain ⟨c, hc, rfl⟩ := (fits_single hp).mp hfits
    exact ⟨c, (set_apply p c).trans hc, hpasses⟩

theorem steps_char {set : CharSet} {n : Nat} {x y : Place} :
    Steps (Regex.Spans (.char set)) n x y ↔
      ∃ text, text.length = n ∧ (∀ c ∈ text, set c = true) ∧ x.Passes text y := by
  induction n generalizing x with
  | zero =>
    simp only [Steps, List.length_eq_zero_iff]
    constructor
    · rintro rfl
      exact ⟨[], rfl, nofun, Place.passes_nil x⟩
    · rintro ⟨_, rfl, -, hpasses⟩
      exact Place.passes_nil_iff.mp hpasses
  | succ n ih =>
    constructor
    · rintro ⟨u, ⟨c, hc, hu⟩, hsteps⟩
      obtain ⟨text, rfl, hall, hy⟩ := ih.mp hsteps
      exact ⟨c :: text, rfl, List.forall_mem_cons.mpr ⟨hc, hall⟩, hu.append hy⟩
    · rintro ⟨_ | ⟨c, text⟩, hlength, hall, hpasses⟩
      · cases hlength
      · obtain ⟨hc, hall⟩ := List.forall_mem_cons.mp hall
        obtain ⟨u, hu, hy⟩ :=
          Place.passes_append_iff.mp (show x.Passes ([c] ++ text) y from hpasses)
        exact ⟨u, ⟨c, hc, hu⟩, ih.mpr ⟨text, Nat.succ.inj hlength, hall, hy⟩⟩

/-- Any number of characters but line feeds. -/
theorem spans_anyChars_iff (x y : Place) :
    Regex.Spans (.repeated (.char Part.anyChar.set) 0 none true) x y ↔
      SpansFit [.anyChars] x y := by
  constructor
  · rintro ⟨n, -, -, hsteps⟩
    obtain ⟨text, -, hall, hpasses⟩ := steps_char.mp hsteps
    refine ⟨text, fits_anyChars.mpr fun hmem => ?_, hpasses⟩
    exact absurd ((set_apply .anyChar '\n').symm.trans (hall _ hmem)) (by decide)
  · rintro ⟨text, hfits, hpasses⟩
    refine ⟨text.length, Nat.zero_le _, nofun, steps_char.mpr ⟨text, rfl, fun c hc => ?_, hpasses⟩⟩
    have hne : c ≠ '\n' := fun h => fits_anyChars.mp hfits (h ▸ hc)
    simpa [set_apply, Part.admits] using hne

/-- What a part other than a bar is read as. -/
def translated : Part → Regex.Part
  | .anyChars => ⟨.repeated (.char Part.anyChar.set) 0 none true, 1⟩
  | .class negated members => ⟨.char (Part.class negated members).set, 1⟩
  | p => ⟨.char p.set, 0⟩

theorem spans_translated_iff (p : Part) (x y : Place) :
    (translated p).regex.Spans x y ↔ SpansFit [p] x y := by
  by_cases hp : p = .anyChars
  · subst hp
    exact spans_anyChars_iff x y
  · have hregex : (translated p).regex = .char p.set := by
      cases p with
      | anyChars => exact absurd rfl hp
      | _ => rfl
    rw [hregex]
    exact spans_char_iff hp x y

theorem nesting_translated_le (p : Part) : (translated p).nesting ≤ 1 := by
  cases p <;> simp [translated]

theorem run_translated {r : Reader} (hflags : r.flags = {}) {p : Part} (hbar : p ≠ .bar)
    (hplain : ∀ negated members, p = .class negated members → Plain negated members)
    {rest : List Char} (hrest : rest.head? ≠ some '?') :
    r.run (p.regexText ++ rest) = (r.add (translated p)).run rest := by
  have hverbose : r.flags.verbose = false := by rw [hflags]
  have hdot (rest : List Char) :
      r.run ('.' :: rest) = (r.addSet Part.anyChar.set 0).run rest := by
    have hstep : r.step '.' rest = some (r.addSet Part.anyChar.set 0, rest) := by
      change (r.flags.dot?.map _) = _
      rw [hflags]
      rfl
    rw [run_cons hverbose, hstep]
    rfl
  cases p with
  | bar => exact absurd rfl hbar
  | anyChar => exact hdot rest
  | char c => exact run_quoteChar hflags c rest
  | «class» negated members =>
    let content := (if negated then ['^'] else []) ++ members.flatMap quoteMember
    have htext :
        (Part.class negated members).regexText ++ rest = '[' :: (content ++ ']' :: rest) := by
      simp [Part.regexText, content]
    rw [htext, run_cons hverbose]
    change (r.bracket _).bind _ = _
    rw [bracket_members (hplain _ _ rfl) hflags]
    rfl
  | anyChars =>
    have hstep : (r.addSet Part.anyChar.set 0).step '*' rest =
        some (r.add (translated .anyChars), rest) := by
      change repetition _ 0 none rest = _
      unfold repetition
      split
      · exact absurd rfl hrest
      · simp [repeatLast, addSet, add, repeatPart, takesNothing, hflags, translated]
    have hstar : (r.addSet Part.anyChar.set 0).flags.verbose = false := hverbose
    rw [Part.regexText, List.cons_append, List.singleton_append, hdot, run_cons hstar, hstep]
    rfl

/-- What the parts of an alternative are read as. -/
def branch (alt : List Part) : Regex.Part :=
  sequence (alt.map fun p => Element.part (translated p)).reverse

/-- What some alternatives and one more are read as. -/
def chosen (done : List (List Part)) (alt : List Part) : Regex.Part :=
  choice (done.map branch).reverse (branch alt)

/-- The reader after some alternatives of a glob and the first parts of one more. -/
def readerAfter (done : List (List Part)) (alt : List Part) : Reader where
  elements := (alt.map fun p => Element.part (translated p)).reverse
  alternatives := (done.map branch).reverse
  groups := [outer]

theorem readerAfter_add (done : List (List Part)) (alt : List Part) (p : Part) :
    (readerAfter done alt).add (translated p) = readerAfter done (alt ++ [p]) := by
  simp [readerAfter, add]

theorem readerAfter_nextAlternative (done : List (List Part)) (alt : List Part) :
    (readerAfter done alt).nextAlternative = readerAfter (done ++ [alt]) [] := by
  simp [readerAfter, nextAlternative, branch]

theorem spans_branch (alt : List Part) (x y : Place) :
    (branch alt).regex.Spans x y ↔ SpansFit alt x y := by
  induction alt using List.reverseRecOn generalizing y with
  | nil =>
    constructor
    · rintro rfl
      exact ⟨[], .nil, Place.passes_nil x⟩
    · rintro ⟨text, hfits, hpasses⟩
      obtain rfl := fits_nil.mp hfits
      exact Place.passes_nil_iff.mp hpasses
  | append_singleton alt p ih =>
    have hbranch : branch (alt ++ [p]) = sequence (.part (translated p) ::
        (alt.map fun p => Element.part (translated p)).reverse) := by
      simp [branch]
    rw [hbranch, spans_sequence_cons, spansFit_append]
    exact exists_congr fun u => and_congr (ih u) (spans_translated_iff p u y)

theorem spans_chosen (done : List (List Part)) (alt : List Part) (x y : Place) :
    (chosen done alt).regex.Spans x y ↔ ∃ a ∈ done ++ [alt], SpansFit a x y := by
  rw [chosen, spans_choice]
  simp [spans_branch, or_and_right, exists_or]

theorem nesting_branch_le (alt : List Part) : (branch alt).nesting ≤ 2 := by
  refine nesting_sequence_le fun e he => ?_
  obtain ⟨p, -, rfl⟩ := List.mem_map.mp (List.mem_reverse.mp he)
  exact nesting_translated_le p

theorem nesting_chosen_le (done : List (List Part)) (alt : List Part) :
    (chosen done alt).nesting ≤ 3 := by
  refine nesting_choice_le (fun part hpart => ?_) (nesting_branch_le alt)
  obtain ⟨a, -, rfl⟩ := List.mem_map.mp (List.mem_reverse.mp hpart)
  exact nesting_branch_le a

theorem head?_regexText (p : Part) (rest : List Char) :
    ∃ c tail, p.regexText ++ rest = c :: tail ∧ c ≠ '?' := by
  cases p with
  | char c =>
    rw [Part.regexText, quoteChar_eq]
    split
    · exact ⟨'\\', c :: rest, rfl, by decide⟩
    · next hc => exact ⟨c, rest, rfl, fun h => hc (by rw [h]; decide)⟩
  | _ => exact ⟨_, _, rfl, by decide⟩

/-- Reading keeps to the parts up to the closing. -/
theorem run_parts {ps : List Part}
    (hplain : ∀ negated members, .class negated members ∈ ps → Plain negated members)
    (done : List (List Part)) (alt : List Part) :
    ∃ done' alt', (readerAfter done alt).run (ps.flatMap Part.regexText ++ closing) =
        (readerAfter done' alt').run closing ∧
      done' ++ [alt'] = done ++ alternativesFrom alt ps := by
  induction ps generalizing done alt with
  | nil => exact ⟨done, alt, rfl, rfl⟩
  | cons p ps ih =>
    have hps : ∀ negated members, .class negated members ∈ ps → Plain negated members :=
      fun negated members hmem => hplain negated members (.tail _ hmem)
    rw [List.flatMap_cons, List.append_assoc]
    by_cases hbar : p = .bar
    · subst hbar
      obtain ⟨done', alt', hrun, heq⟩ := ih hps (done ++ [alt]) []
      have hstep : (readerAfter done alt).step '|' (ps.flatMap Part.regexText ++ closing) =
          some (readerAfter (done ++ [alt]) [], ps.flatMap Part.regexText ++ closing) :=
        congrArg (fun r => some (r, _)) (readerAfter_nextAlternative done alt)
      refine ⟨done', alt', ?_, ?_⟩
      · rw [Part.regexText, List.singleton_append, run_cons rfl, hstep]
        exact hrun
      · rw [heq, alternativesFrom, List.append_assoc, List.singleton_append]
    · obtain ⟨done', alt', hrun, heq⟩ := ih hps done (alt ++ [p])
      refine ⟨done', alt', ?_, ?_⟩
      · rw [run_translated rfl hbar (fun negated members hp => hplain _ _ (hp ▸ .head _)) ?_,
          readerAfter_add]
        · exact hrun
        · cases ps with
          | nil => decide
          | cons q ps =>
            obtain ⟨c, tail, htext, hc⟩ := head?_regexText q (ps.flatMap Part.regexText ++ closing)
            rw [List.flatMap_cons, List.append_assoc, htext]
            exact fun h => hc (Option.some.inj h)
      · rw [heq]
        cases p with
        | bar => exact absurd rfl hbar
        | _ => rfl

/-- The expression that the parts of a glob are read as. -/
def expression (ps : List Part) : Regex :=
  (chosen (alternatives ps).dropLast ((alternatives ps).getLastD [])).regex.anchored

/-- The expression for parts is valid unless it is too large; globs do not nest deeply. -/
theorem parse?_anchored {ps : List Part}
    (hplain : ∀ negated members, .class negated members ∈ ps → Plain negated members) :
    Pattern.parse? (anchored (ps.flatMap Part.regexText)) =
      if (expression ps).fits then some ⟨expression ps, []⟩ else none := by
  obtain ⟨done, alt, hrun, heq⟩ := run_parts hplain [] []
  rw [List.nil_append] at heq
  have hexpression : expression ps = (chosen done alt).regex.anchored := by
    simp [expression, alternatives, ← heq]
  let text := ps.flatMap Part.regexText
  let q : Reader := { readerAfter done alt with groups := [] }
  have hread : Pattern.parse? (anchored text) =
      if q.hasRoom then some ⟨(chosen done alt).regex.anchored, []⟩ else none := by
    rw [Pattern.parse?, Pattern.ofChars?_anchored,
      readAll_fuel (by simp [closing]) (Nat.le_refl (text ++ closing).length)]
    change ((readerAfter [] []).run _).bind _ = _
    have hclose : (readerAfter done alt).run closing = (q.within [outer]).close :=
      readAll_closing (skip_closing _) (Nat.le_refl 2)
    rw [hrun, hclose, pattern?_close rfl]
    rfl
  have hroom : q.hasRoom = (chosen done alt).regex.anchored.fits := by
    have hnesting : (chosen done alt).nesting + 2 ≤ maxNesting :=
      (Nat.add_le_add_right (nesting_chosen_le done alt) 2).trans (by decide)
    have hbody : q.body = chosen done alt := rfl
    simp [Reader.hasRoom, hbody, hnesting]
  rw [hread, hroom, hexpression]

/-- The expression for parts matches the names that fit one of the alternatives. -/
theorem occursIn_expression (ps : List Part) (name : String) :
    Pattern.occursIn ⟨expression ps, []⟩ name = true ↔
      ∃ alt ∈ alternatives ps, Fits alt name.toList := by
  obtain ⟨done, last, heq⟩ := exists_alternativesFrom [] ps
  have halternatives :
      (alternatives ps).dropLast ++ [(alternatives ps).getLastD []] = alternatives ps := by
    simp [alternatives, heq]
  rw [Pattern.occursIn, expression, occursIn_anchored_iff]
  simp only [SpansAll, spans_chosen, halternatives]
  constructor
  · rintro ⟨y, ⟨a, ha, text, hfits, hpasses⟩, hrest⟩
    obtain rfl : name.toList = text := by simpa [Place.start, hrest] using hpasses.rest
    exact ⟨a, ha, hfits⟩
  · rintro ⟨a, ha, hfits⟩
    obtain ⟨y, hpasses, hrest⟩ := Place.exists_passes (p := .start name.toList)
      (List.append_nil name.toList).symm
    exact ⟨y, ⟨a, ha, name.toList, hfits, hpasses⟩, hrest⟩

end Glob

namespace FieldPattern

open Glob

theorem plain_of_writes {s : String} {ps : List Glob.Part} (hwrites : Writes s.toList ps)
    (hminus : ∀ negated members, .class negated members ∈ ps → '-' ∉ members) :
    ∀ negated members, .class negated members ∈ ps → Plain negated members := by
  intro negated members hmem
  obtain ⟨body, hclass⟩ := writesClass_of_mem hwrites hmem
  exact .of_writesClass hclass (hminus negated members hmem)

theorem compiles_of_writes {s : String} {ps : List Glob.Part} (hwrites : Writes s.toList ps)
    (hminus : ∀ negated members, .class negated members ∈ ps → '-' ∉ members)
    (hfits : (expression ps).fits = true) : compiles s = true := by
  have hparse := parse?_anchored (plain_of_writes hwrites hminus)
  rw [compiles, regexText?, writes_iff.mp hwrites]
  by_cases hwild : ps.any Part.isWildcard = true <;> simp [hwild, hparse, hfits]

/-- A pattern whose classes list no minus sign names the fields whose name as a whole fits one of
the alternatives. If its expression is not valid, it names the field that is called so. -/
theorem holds_ofString {s : String}
    (h : ∀ negated members, .class negated members ∈ parts s.toList → '-' ∉ members)
    (name : String) :
    (ofString s).holds name = true ↔
      if compiles s then ∃ alt ∈ alternatives (parts s.toList), Fits alt name.toList
      else name = s := by
  have hwrites := writes_parts s.toList
  by_cases hwild : (parts s.toList).any Part.isWildcard = true
  · have hparse := parse?_anchored (plain_of_writes hwrites h)
    by_cases hfits : (expression (parts s.toList)).fits = true
    · have hpattern : ofString s = .glob ⟨expression (parts s.toList), []⟩ := by
        simp [ofString, regexText?, hwild, hparse, hfits]
      rw [hpattern, if_pos (compiles_of_writes hwrites h hfits)]
      exact occursIn_expression _ name
    · have hcompiles : ¬ compiles s = true := by
        simp [compiles, regexText?, hwild, hparse, hfits]
      have hliteral : ofString s = .literal s := by
        simp [ofString, regexText?, hwild, hparse, hfits]
      rw [hliteral, if_neg hcompiles, holds, beq_iff_eq]
      exact eq_comm
  · rw [Bool.not_eq_true] at hwild
    have hcompiles : compiles s = true := by simp [compiles, regexText?, hwild]
    have hliteral : ofString s = .literal s := by simp [ofString, regexText?, hwild]
    rw [hliteral, if_pos hcompiles, parts_eq_map hwrites hwild, alternatives_map_char]
    simp only [List.mem_singleton, exists_eq_left, fits_map_char, holds, beq_iff_eq,
      String.toList_inj]
    exact eq_comm

/-- Every text is a glob in one way. Where its classes list no minus sign and its expression is
valid, it names the fields whose name as a whole fits one of the alternatives that it writes; where
the expression is not valid, the field that is called so. -/
theorem holds_iff_fits (s : String) :
    (∃! ps, Writes s.toList ps) ∧ ∀ ps, Writes s.toList ps →
      (∀ negated members, .class negated members ∈ ps → '-' ∉ members) →
      ∀ name : String, (ofString s).holds name = true ↔
        if compiles s then ∃ alt ∈ alternatives ps, Fits alt name.toList else name = s := by
  constructor
  · exact ⟨parts s.toList, writes_parts s.toList, fun ps hps => (writes_iff.mp hps).symm⟩
  · intro ps hps hminus name
    obtain rfl := writes_iff.mp hps
    exact holds_ofString hminus name

/-- A sign of the other notation stands for itself, and a class that is not closed is no class. -/
theorem holds_iff_fits_mixed :
    let s := "[!ab]?.|[c"
    let ps := [.class true ['a', 'b'], .anyChar, .char '.', .bar, .char '[', .char 'c']
    Writes s.toList ps ∧ (∀ negated members, .class negated members ∈ ps → '-' ∉ members) ∧
      (ofString s).holds "c\\." = true ∧ (ofString s).holds "[c" = true ∧
      (ofString s).holds "c\\d" = false := by
  intro s ps
  have htext : s.toList = ['[', '!', 'a', 'b', ']', '?', '.', '|', '[', 'c'] := by decide
  have hunclosed : ∀ body negated members after, ['c'] = body ++ ']' :: after →
      ¬ WritesClass body negated members := by
    rintro body - - after heq -
    have hmem : ']' ∈ ['c'] := by rw [heq]; simp
    exact absurd hmem (by decide)
  have hclass : WritesClass ['!', 'a', 'b'] true ['a', 'b'] :=
    .unlisted (.inl rfl) (by decide) (by decide)
  have hwrites : Writes s.toList ps := by
    rw [htext]
    exact .class hclass <| .anyChar <| .char (by decide) <| .bar <| .bracket hunclosed <|
      .char (by decide) .nil
  have hminus : ∀ negated members, .class negated members ∈ ps → '-' ∉ members := by
    intro negated members hmem
    obtain ⟨rfl, rfl⟩ : negated = true ∧ members = ['a', 'b'] := by simpa [ps] using hmem
    decide
  have hcompiles : compiles s = true := compiles_of_writes hwrites hminus (by decide +kernel)
  have hholds := (holds_iff_fits s).2 ps hwrites hminus
  simp only [if_pos hcompiles] at hholds
  refine ⟨hwrites, hminus, (hholds _).mpr ⟨_, .head _, ?_⟩,
    (hholds _).mpr ⟨_, .tail _ (.head _), ?_⟩, ?_⟩
  · exact .unlisted (by decide) <| .anyChar (by decide) <| .char .nil
  · exact .char <| .char .nil
  · refine Bool.eq_false_iff.mpr fun h => ?_
    obtain ⟨_, halt, hfits⟩ := (hholds _).mp h
    cases halt with
    | head =>
      cases hfits with
      | unlisted _ hfits =>
        cases hfits with
        | anyChar _ hfits => nomatch hfits
    | tail _ halt =>
      cases halt with
      | head => nomatch hfits
      | tail _ halt => nomatch halt

end FieldPattern

end RecordFix
