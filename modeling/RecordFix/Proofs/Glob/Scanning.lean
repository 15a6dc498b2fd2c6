import RecordFix.Proofs.Glob.Grammar

/-!
# Scanning a glob by places

A glob can be read from left to right by the places of its characters (`Glob.Scan`). A class is
skipped as a whole, once the place of its closing bracket has been found. To ask for a character or
for a run of characters that the text does not have is an error (`Glob.OutOfRange`), but it does not
come up. Each turn leads from a place in the text to a later one that is at most its end
(`Glob.exists_step`), so the scan is over after as many turns as there are characters
(`Glob.scans_of_writes`). What it has written by then is the regular expression for the glob
(`Glob.scan_glob`).
-/

namespace RecordFix.Glob

/-! ## Scanner -/

/-- A text has no character at this place, or not all those from the one place to the other. -/
inductive OutOfRange where
  | character (place : Nat)
  | characters (first last : Nat)
  deriving DecidableEq, Repr

/-- The character at a place. -/
def charAt (text : List Char) (place : Nat) : Except OutOfRange Char :=
  match text[place]? with
  | some c => .ok c
  | none => .error (.character place)

/-- The characters from one place on up to another. -/
def slice (text : List Char) (first last : Nat) : Except OutOfRange (List Char) :=
  if first ≤ last ∧ last ≤ text.length then .ok ((text.take last).drop first)
  else .error (.characters first last)

/-- Whether the character in front of the members of a class says that the others are meant. -/
def isSign (c : Char) : Bool := c = '!' || c = '^'

/-- The place of the bracket that closes a class whose members start at a place; none if there is no
such bracket or no member. -/
def membersEnd? (text : List Char) (first : Nat) : Except OutOfRange (Option Nat) :=
  match text[first]? with
  | none | some ']' => .ok none
  | some _ => do
    let body ← slice text first text.length
    pure ((body.idxOf? ']').map (first + ·))

/-- The place of the bracket that closes a class opened at a place; none if no class is. -/
def classEnd? (text : List Char) (start : Nat) : Except OutOfRange (Option Nat) :=
  membersEnd? text (if text[start + 1]?.any isSign then start + 2 else start + 1)

/-- How far a glob has been read, what has been written for it, and whether there was a wildcard. -/
structure Scan where
  place : Nat := 0
  written : List Char := ['^', '(', '?', ':']
  wildcard : Bool := false

namespace Scan

/-- Writes a part, and goes on at a place. -/
def put (s : Scan) (p : Part) (place : Nat) : Scan :=
  ⟨place, s.written ++ p.regexText, s.wildcard || p.isWildcard⟩

/-- Reads the part at the place, where this character stands. -/
def readFrom (text : List Char) (s : Scan) (c : Char) : Except OutOfRange Scan :=
  if c = '*' then .ok (s.put .anyChars (s.place + 1))
  else if c = '?' then .ok (s.put .anyChar (s.place + 1))
  else if c = '|' then .ok (s.put .bar (s.place + 1))
  else if c = '[' then do
    match ← classEnd? text s.place with
    | some last =>
      let sign ← charAt text (s.place + 1)
      let members ← slice text (if isSign sign then s.place + 2 else s.place + 1) last
      pure (s.put (.class (isSign sign) members) (last + 1))
    | none => pure (s.put (.char c) (s.place + 1))
  else .ok (s.put (.char c) (s.place + 1))

/-- Reads the part at the place. -/
def step (text : List Char) (s : Scan) : Except OutOfRange Scan :=
  charAt text s.place >>= s.readFrom text

/-- Reads parts, at most so many, until the text ends. -/
def turns (text : List Char) : Nat → Scan → Except OutOfRange Scan
  | 0, s => .ok s
  | n + 1, s => if s.place < text.length then step text s >>= turns text n else .ok s

/-- The regular expression that has been written; none if there was no wildcard. -/
def result (s : Scan) : Option String :=
  if s.wildcard then some (.ofList (s.written ++ [')', '$'])) else none

end Scan

/-! ## Asking for characters -/

variable {before rest members after body text : List Char} {negated : Bool} {ps : List Part}

theorem getElem?_length_add (before rest : List Char) (k : Nat) :
    (before ++ rest)[before.length + k]? = rest[k]? := by
  rw [List.getElem?_append_right (Nat.le_add_right _ _), Nat.add_sub_cancel_left]

theorem charAt_of_getElem? {place : Nat} {c : Char} (h : text[place]? = some c) :
    charAt text place = .ok c := by
  rw [charAt, h]

theorem charAt_length (before : List Char) (c : Char) (rest : List Char) :
    charAt (before ++ c :: rest) before.length = .ok c :=
  charAt_of_getElem? (getElem?_length_add before (c :: rest) 0)

theorem slice_length (before middle after : List Char) :
    slice (before ++ (middle ++ after)) before.length (before.length + middle.length) =
      .ok middle := by
  rw [slice, if_pos ⟨Nat.le_add_right _ _, by simp⟩, ← List.append_assoc, ← List.length_append,
    List.take_left, List.drop_left]

theorem slice_to_end (before rest : List Char) :
    slice (before ++ rest) before.length (before ++ rest).length = .ok rest := by
  have h := slice_length before rest []
  rwa [List.append_nil, ← List.length_append] at h

/-! ## The end of a class -/

theorem idxOf?_append_cons (h : ']' ∉ members) :
    (members ++ ']' :: after).idxOf? ']' = some members.length := by
  induction members with
  | nil => rfl
  | cons c rest ih =>
    have hc : c ≠ ']' := fun hc => h (hc ▸ List.mem_cons_self)
    rw [List.cons_append, List.idxOf?_cons, if_neg (by simpa using hc),
      ih (List.not_mem_of_not_mem_cons h)]
    rfl

theorem membersEnd?_length (before rest : List Char) :
    membersEnd? (before ++ rest) before.length =
      .ok (if rest.head? = some ']' then none
        else (rest.idxOf? ']').map (before.length + ·)) := by
  have hat : (before ++ rest)[before.length]? = rest.head? := by
    rw [List.head?_eq_getElem?]
    exact getElem?_length_add before rest 0
  unfold membersEnd?
  rw [hat]
  cases rest with
  | nil => rfl
  | cons c more =>
    by_cases hc : c = ']'
    · subst hc
      rfl
    · rw [List.head?_cons, if_neg fun h => hc (Option.some.inj h)]
      split
      · next h => cases h
      · next h => exact absurd (Option.some.inj h) hc
      · rw [slice_to_end]
        rfl

/-- Looking for the end of a class asks for nothing outside of the text, and finds a place in it. -/
theorem exists_membersEnd? (text : List Char) (first : Nat) :
    ∃ r, membersEnd? text first = .ok r ∧ ∀ last ∈ r, first < last ∧ last < text.length := by
  by_cases hfirst : first ≤ text.length
  · have hend := membersEnd?_length (text.take first) (text.drop first)
    rw [List.take_append_drop, List.length_take, Nat.min_eq_left hfirst] at hend
    refine ⟨_, hend, fun last hlast => ?_⟩
    split at hlast
    · cases hlast
    · next hhead =>
      obtain ⟨k, hk, rfl⟩ := Option.map_eq_some_iff.mp hlast
      obtain ⟨hlt, hclosing, -⟩ := List.idxOf?_eq_some_iff.mp hk
      have hpos : k ≠ 0 := by
        rintro rfl
        rw [List.head?_eq_getElem?, List.getElem?_eq_getElem hlt, hclosing] at hhead
        exact hhead rfl
      rw [List.length_drop] at hlt
      omega
  · refine ⟨none, ?_, by simp⟩
    rw [membersEnd?, List.getElem?_eq_none (by omega)]

theorem exists_classEnd? (text : List Char) (start : Nat) :
    ∃ r, classEnd? text start = .ok r ∧ ∀ last ∈ r, start + 1 < last ∧ last < text.length := by
  obtain ⟨r, hr, hplaces⟩ := exists_membersEnd? text
    (if text[start + 1]?.any isSign then start + 2 else start + 1)
  refine ⟨r, hr, fun last hlast => ?_⟩
  have hlast := hplaces last hlast
  split at hlast <;> omega

theorem membersEnd?_of_members (before after : List Char) (hne : members ≠ [])
    (hnot : ']' ∉ members) :
    membersEnd? (before ++ (members ++ ']' :: after)) before.length =
      .ok (some (before.length + members.length)) := by
  have hhead : (members ++ ']' :: after).head? ≠ some ']' := by
    obtain ⟨c, more, rfl⟩ := List.exists_cons_of_ne_nil hne
    exact fun h => hnot (Option.some.inj h ▸ List.mem_cons_self)
  rw [membersEnd?_length, if_neg hhead, idxOf?_append_cons hnot, Option.map_some]

theorem membersEnd?_of_none (before : List Char)
    (h : ∀ members after, rest = members ++ ']' :: after → members ≠ [] → ']' ∈ members) :
    membersEnd? (before ++ rest) before.length = .ok none := by
  rw [membersEnd?_length]
  split
  · rfl
  · next hhead =>
    have hnot : ']' ∉ rest := by
      intro hmem
      obtain ⟨members, after, rfl, hnot⟩ := List.eq_append_cons_of_mem hmem
      cases members with
      | nil => exact hhead rfl
      | cons c more => exact hnot (h _ after rfl (List.cons_ne_nil c more))
    rw [List.idxOf?_eq_none_iff.mpr hnot, Option.map_none]

theorem isSign_iff {c : Char} : isSign c = true ↔ c = '!' ∨ c = '^' := by
  simp [isSign]

theorem isSign_of_head? {c : Char} (hbang : (c :: rest).head? ≠ some '!')
    (hcircumflex : (c :: rest).head? ≠ some '^') : isSign c = false := by
  refine Bool.eq_false_iff.mpr fun hc => ?_
  rcases isSign_iff.mp hc with rfl | rfl
  · exact hbang rfl
  · exact hcircumflex rfl

theorem classEnd?_sign (before : List Char) {c : Char} (hc : isSign c = true) (rest : List Char) :
    classEnd? (before ++ '[' :: c :: rest) before.length =
      membersEnd? ((before ++ ['[', c]) ++ rest) (before ++ ['[', c]).length := by
  have hat : (before ++ '[' :: c :: rest)[before.length + 1]? = some c :=
    getElem?_length_add before ('[' :: c :: rest) 1
  rw [classEnd?, hat, Option.any_some, if_pos hc]
  simp

theorem classEnd?_plain (before : List Char) (hrest : rest.head?.any isSign = false) :
    classEnd? (before ++ '[' :: rest) before.length =
      membersEnd? ((before ++ ['[']) ++ rest) (before ++ ['[']).length := by
  have hat : (before ++ '[' :: rest)[before.length + 1]? = rest.head? := by
    rw [List.head?_eq_getElem?]
    exact getElem?_length_add before ('[' :: rest) 1
  rw [classEnd?, hat, hrest]
  simp

/-- The place found for a class is that of the bracket that closes it. -/
theorem classEnd?_of_class (before after : List Char) (h : WritesClass body negated members) :
    classEnd? (before ++ '[' :: (body ++ ']' :: after)) before.length =
      .ok (some (before.length + 1 + body.length)) := by
  cases h with
  | listed hne hnot hbang hcircumflex =>
    obtain ⟨c, more, rfl⟩ := List.exists_cons_of_ne_nil hne
    have hplain : (c :: more ++ ']' :: after).head?.any isSign = false :=
      isSign_of_head? hbang hcircumflex
    rw [classEnd?_plain before hplain, membersEnd?_of_members _ after hne hnot]
    simp
  | @unlisted sign members hsign hne hnot =>
    rw [List.cons_append, classEnd?_sign before (isSign_iff.mpr hsign),
      membersEnd?_of_members _ after hne hnot]
    simp
    omega

/-- No place is found where no class is written. -/
theorem classEnd?_of_none (before : List Char)
    (h : ∀ body negated members after, rest = body ++ ']' :: after →
      ¬ WritesClass body negated members) :
    classEnd? (before ++ '[' :: rest) before.length = .ok none := by
  cases hplain : rest.head?.any isSign with
  | true =>
    cases rest with
    | nil => cases hplain
    | cons c rest =>
      rw [classEnd?_sign before hplain]
      refine membersEnd?_of_none _ fun members after hrest hne => ?_
      refine Decidable.byContradiction fun hnot => ?_
      exact h (c :: members) true members after (congrArg (c :: ·) hrest)
        (.unlisted (isSign_iff.mp hplain) hne hnot)
  | false =>
    rw [classEnd?_plain before hplain]
    refine membersEnd?_of_none _ fun members after hrest hne => ?_
    refine Decidable.byContradiction fun hnot => ?_
    have hhead : ∀ c, members.head? = some c → ¬ isSign c = true := by
      intro c hc hsign
      rw [hrest, List.head?_append, hc] at hplain
      simp [hsign] at hplain
    exact h members false members after hrest (.listed hne hnot
      (fun hc => hhead _ hc rfl) fun hc => hhead _ hc rfl)

/-! ## One turn -/

/-- Wherever it stands in a text, and whatever has been written, one turn reads this text as this
part. -/
structure Turn (read rest : List Char) (p : Part) : Prop where
  ne_nil : read ≠ []
  step_eq : ∀ (before : List Char) (s : Scan), s.place = before.length →
    s.step (before ++ (read ++ rest)) = .ok (s.put p (before.length + read.length))

variable {s : Scan}

theorem step_cons (hplace : s.place = before.length) (c : Char) (rest : List Char) :
    s.step (before ++ c :: rest) = s.readFrom (before ++ c :: rest) c := by
  unfold Scan.step
  rw [hplace, charAt_length]
  rfl

theorem turn_sign {c : Char} {p : Part}
    (h : (c, p) ∈ [('*', .anyChars), ('?', .anyChar), ('|', Part.bar)]) : Turn [c] rest p := by
  refine ⟨List.cons_ne_nil c [], fun before s hplace => ?_⟩
  rw [List.singleton_append, step_cons hplace, ← hplace]
  simp only [List.mem_cons, Prod.mk.injEq, List.not_mem_nil, or_false] at h
  rcases h with ⟨rfl, rfl⟩ | ⟨rfl, rfl⟩ | ⟨rfl, rfl⟩ <;> rfl

theorem turn_char {c : Char} (hc : c ∉ ['*', '?', '|', '[']) : Turn [c] rest (.char c) := by
  obtain ⟨hstar, hquestion, hbar, hbracket⟩ :
      c ≠ '*' ∧ c ≠ '?' ∧ c ≠ '|' ∧ c ≠ '[' := by simpa using hc
  refine ⟨List.cons_ne_nil c [], fun before s hplace => ?_⟩
  rw [List.singleton_append, step_cons hplace, ← hplace]
  unfold Scan.readFrom
  rw [if_neg hstar, if_neg hquestion, if_neg hbar, if_neg hbracket]
  rfl

/-- A bracket that opens no class is read by itself. -/
theorem turn_bracket (h : ∀ body negated members after, rest = body ++ ']' :: after →
    ¬ WritesClass body negated members) : Turn ['['] rest (.char '[') := by
  refine ⟨List.cons_ne_nil '[' [], fun before s hplace => ?_⟩
  have hend := classEnd?_of_none before h
  rw [← hplace] at hend
  rw [List.singleton_append, step_cons hplace, ← hplace]
  show (classEnd? _ s.place >>= _) = _
  rw [hend]
  rfl

/-- The character behind the bracket says whether the class is negated, and then the members start
one place later. -/
theorem read_class (before after : List Char) (h : WritesClass body negated members) :
    ∃ sign, charAt (before ++ '[' :: (body ++ ']' :: after)) (before.length + 1) = .ok sign ∧
      isSign sign = negated ∧
      slice (before ++ '[' :: (body ++ ']' :: after))
        (if negated then before.length + 2 else before.length + 1)
        (before.length + 1 + body.length) = .ok members := by
  cases h with
  | listed hne hnot hbang hcircumflex =>
    obtain ⟨c, more, rfl⟩ := List.exists_cons_of_ne_nil hne
    refine ⟨c, charAt_of_getElem? (getElem?_length_add before _ 1),
      isSign_of_head? hbang hcircumflex, ?_⟩
    simpa using slice_length (before ++ ['[']) (c :: more) (']' :: after)
  | @unlisted sign members hsign hne hnot =>
    refine ⟨sign, charAt_of_getElem? (getElem?_length_add before _ 1), isSign_iff.mpr hsign, ?_⟩
    have hslice := slice_length (before ++ ['[', sign]) members (']' :: after)
    have hlast : before.length + 1 + (sign :: members).length =
        before.length + 2 + members.length := by
      rw [List.length_cons]
      omega
    rw [hlast]
    simpa using hslice

/-- A class is read with both of its brackets. -/
theorem turn_class (h : WritesClass body negated members) :
    Turn ('[' :: body ++ [']']) rest (.class negated members) := by
  refine ⟨by simp, fun before s hplace => ?_⟩
  have htext : '[' :: body ++ [']'] ++ rest = '[' :: (body ++ ']' :: rest) := by simp
  have hnext : before.length + ('[' :: body ++ [']']).length =
      before.length + 1 + body.length + 1 := by
    rw [List.length_append, List.length_cons, List.length_singleton]
    omega
  obtain ⟨sign, hsign, rfl, hslice⟩ := read_class before rest h
  have hend := classEnd?_of_class before rest h
  rw [htext, hnext, step_cons hplace]
  rw [← hplace] at hsign hslice hend ⊢
  show (classEnd? _ s.place >>= _) = _
  rw [hend]
  show (charAt _ _ >>= fun sign => slice _ _ _ >>= fun members => pure _) = _
  rw [hsign]
  show (slice _ _ _ >>= fun members => pure _) = _
  rw [hslice]
  rfl

/-- A text that has not ended starts with what one turn reads. -/
theorem exists_turn (h : Writes text ps) : text = [] ∧ ps = [] ∨
    ∃ read rest p qs, text = read ++ rest ∧ ps = p :: qs ∧ Turn read rest p ∧ Writes rest qs := by
  cases h with
  | nil => exact .inl ⟨rfl, rfl⟩
  | anyChars h => exact .inr ⟨['*'], _, _, _, rfl, rfl, turn_sign (by simp), h⟩
  | anyChar h => exact .inr ⟨['?'], _, _, _, rfl, rfl, turn_sign (by simp), h⟩
  | bar h => exact .inr ⟨['|'], _, _, _, rfl, rfl, turn_sign (by simp), h⟩
  | @«class» body _ rest _ _ hclass h =>
    exact .inr ⟨'[' :: body ++ [']'], rest, _, _, by simp, rfl, turn_class hclass, h⟩
  | bracket hno h => exact .inr ⟨['['], _, _, _, rfl, rfl, turn_bracket hno, h⟩
  | @char c _ _ hc h => exact .inr ⟨[c], _, _, _, rfl, rfl, turn_char hc, h⟩

/-- From a place in the text a turn leads on to a later one that is at most its end. -/
theorem exists_step (hplace : s.place < text.length) :
    ∃ next, s.step text = .ok next ∧ s.place < next.place ∧ next.place ≤ text.length := by
  have hbefore : s.place = (text.take s.place).length := by
    rw [List.length_take, Nat.min_eq_left (Nat.le_of_lt hplace)]
  have hrest : text.drop s.place ≠ [] := by
    rw [ne_eq, List.drop_eq_nil_iff]
    omega
  obtain ⟨hnil, -⟩ | ⟨read, rest, p, -, hread, -, hturn, -⟩ :=
    exists_turn (writes_parts (text.drop s.place))
  · exact absurd hnil hrest
  · have hstep := hturn.step_eq (text.take s.place) s hbefore
    rw [← hread, List.take_append_drop, ← hbefore] at hstep
    have hpos : 0 < read.length := List.length_pos_iff.mpr hturn.ne_nil
    have hlength := congrArg List.length hread
    rw [List.length_drop, List.length_append] at hlength
    refine ⟨_, hstep, ?_, ?_⟩
    · exact Nat.lt_add_of_pos_right hpos
    · show s.place + read.length ≤ text.length
      omega

/-! ## Turns to the end -/

/-- However a text before it has been scanned, the scan of the text ends at its end, after no more
turns than it has characters, and these parts have been written. -/
def Scans (rest : List Char) (ps : List Part) : Prop :=
  ∀ (before : List Char) (s : Scan) (n : Nat), s.place = before.length → rest.length ≤ n →
    s.turns (before ++ rest) n = .ok ⟨(before ++ rest).length,
      s.written ++ ps.flatMap Part.regexText, s.wildcard || ps.any Part.isWildcard⟩

theorem scans_nil : Scans [] [] := by
  intro before s n hplace hn
  have hend : ¬ s.place < (before ++ []).length := by simp [hplace]
  have hstay : s.turns (before ++ []) n = .ok s := by
    cases n with
    | zero => rfl
    | succ n => rw [Scan.turns, if_neg hend]
  rw [hstay]
  simp [← hplace]

/-- What one turn reads may stand in front of what is scanned to its end. -/
theorem Scans.cons {read : List Char} {p : Part} (h : Scans rest ps) (hturn : Turn read rest p) :
    Scans (read ++ rest) (p :: ps) := by
  intro before s n hplace hn
  have hpos : 0 < read.length := List.length_pos_iff.mpr hturn.ne_nil
  rw [List.length_append] at hn
  obtain ⟨m, rfl⟩ : ∃ m, n = m + 1 := ⟨n - 1, by omega⟩
  have hinside : s.place < (before ++ (read ++ rest)).length := by
    rw [hplace, List.length_append, List.length_append]
    omega
  have hnext := h (before ++ read) (s.put p (before.length + read.length)) m
    (List.length_append ..).symm (by omega)
  rw [List.append_assoc] at hnext
  rw [Scan.turns, if_pos hinside, hturn.step_eq before s hplace]
  show Scan.turns _ m _ = _
  rw [hnext]
  simp [Scan.put, List.append_assoc, Bool.or_assoc]

/-- The scan writes the parts that the text writes. -/
theorem scans_of_writes (h : Writes text ps) : Scans text ps := by
  -- a turn may read several characters, so the induction is on how many there are
  induction hsize : text.length using Nat.strongRecOn generalizing text ps with
  | ind size ih =>
    obtain ⟨rfl, rfl⟩ | ⟨read, rest, p, qs, rfl, rfl, hturn, hrest⟩ := exists_turn h
    · exact scans_nil
    · have hpos : 0 < read.length := List.length_pos_iff.mpr hturn.ne_nil
      rw [List.length_append] at hsize
      exact (ih rest.length (by omega) hrest rfl).cons hturn

/-! ## Globs without wildcards -/

/-- No character of the text is a wildcard by itself, and none of its brackets opens a class. -/
structure Unmarked (text : List Char) : Prop where
  signs : ∀ c ∈ text, c ∉ ['*', '?', '|']
  brackets : ∀ before body negated members after,
    text = before ++ '[' :: (body ++ ']' :: after) → ¬ WritesClass body negated members

theorem unmarked_nil : Unmarked [] :=
  ⟨by simp, fun before _ _ _ _ h => by cases before <;> cases h⟩

theorem unmarked_cons {c : Char} : Unmarked (c :: rest) ↔
    c ∉ ['*', '?', '|'] ∧ (c = '[' → ∀ body negated members after, rest = body ++ ']' :: after →
      ¬ WritesClass body negated members) ∧ Unmarked rest := by
  constructor
  · rintro ⟨hsigns, hbrackets⟩
    obtain ⟨hc, hrest⟩ := List.forall_mem_cons.mp hsigns
    refine ⟨hc, ?_, hrest, ?_⟩
    · rintro rfl body negated members after rfl
      exact hbrackets [] body negated members after rfl
    · rintro before body negated members after rfl
      exact hbrackets (c :: before) body negated members after rfl
  · rintro ⟨hc, hopen, hsigns, hbrackets⟩
    refine ⟨List.forall_mem_cons.mpr ⟨hc, hsigns⟩, fun before body negated members after h => ?_⟩
    cases before with
    | nil =>
      obtain ⟨rfl, hrest⟩ := List.cons.inj h
      exact hopen rfl body negated members after hrest
    | cons d before =>
      obtain ⟨rfl, hrest⟩ := List.cons.inj h
      exact hbrackets before body negated members after hrest

/-- Reading from left to right with classes skipped finds a wildcard just if there is one. -/
theorem unmarked_iff (h : Writes text ps) : Unmarked text ↔ ∀ p ∈ ps, ∃ c, p = .char c := by
  induction h with
  | nil => simp [unmarked_nil]
  | anyChars => simp [unmarked_cons]
  | anyChar => simp [unmarked_cons]
  | bar => simp [unmarked_cons]
  | «class» hclass _ ih =>
    refine iff_of_false (fun h => ?_) (by simp)
    exact (unmarked_cons.mp h).2.1 rfl _ _ _ _ rfl hclass
  | bracket hno _ ih =>
    rw [unmarked_cons, List.forall_mem_cons, ih]
    exact ⟨fun h => ⟨⟨'[', rfl⟩, h.2.2⟩, fun h => ⟨by decide, fun _ => hno, h.2⟩⟩
  | @char c _ _ hc _ ih =>
    rw [unmarked_cons, List.forall_mem_cons, ih]
    refine ⟨fun h => ⟨⟨c, rfl⟩, h.2.2⟩, fun h => ⟨?_, ?_, h.2⟩⟩
    · exact fun hmem => hc (List.mem_append_left ['['] hmem)
    · exact fun hbracket => absurd (by simp [hbracket]) hc

theorem regexText?_eq_none_iff {glob : String} (h : Writes glob.toList ps) :
    regexText? glob = none ↔ ∀ p ∈ ps, ∃ c, p = .char c := by
  have hplain (p : Part) : p.isWildcard = false ↔ ∃ c, p = .char c := by
    cases p <;> simp [Part.isWildcard]
  rw [regexText?, writes_iff.mp h, ite_eq_right_iff]
  simp [hplain]

/-- From wherever it is in a glob, a scan by places asks for nothing that lies outside, and each
turn takes it further. It is at the end after no more turns than the glob has characters, with the
regular expression for the glob. There is none just if the glob, read from left to right and with
classes skipped, is written in ordinary characters alone, and so just if it has no sign of a
wildcard and no class anywhere. -/
theorem scan_glob (glob : String) :
    let text := glob.toList
    (∀ s : Scan, s.place < text.length →
      ∃ next, s.step text = .ok next ∧ s.place < next.place ∧ next.place ≤ text.length) ∧
    (∀ start, ∃ r, classEnd? text start = .ok r ∧
      ∀ last ∈ r, start + 1 < last ∧ last < text.length) ∧
    (∃ s, Scan.turns text text.length {} = .ok s ∧ s.place = text.length ∧
      s.result = regexText? glob) ∧
    (∃ ps, (∀ qs, Writes text qs ↔ ps = qs) ∧
      (regexText? glob = none ↔ ∀ p ∈ ps, ∃ c, p = .char c)) ∧
    (regexText? glob = none ↔ Unmarked text) := by
  intro text
  have hwrites : Writes text (parts text) := writes_parts text
  refine ⟨fun s hplace => exists_step hplace, exists_classEnd? text,
    ⟨_, scans_of_writes hwrites [] {} text.length rfl (Nat.le_refl _), rfl, ?_⟩,
    ⟨parts text, fun qs => writes_iff, regexText?_eq_none_iff hwrites⟩, ?_⟩
  · simp [Scan.result, regexText?, anchored, text]
  · rw [regexText?_eq_none_iff hwrites, unmarked_iff hwrites]

/-- Brackets that hold no character, negated or not, and one at the end open no class. -/
theorem scan_glob_openBracketsSample :
    let glob := "[!]a[]b[^]c["
    regexText? glob = none ∧ Unmarked glob.toList ∧
      ∃ s, Scan.turns glob.toList 12 {} = .ok s ∧ s.place = 12 ∧ s.result = none := by
  intro glob
  have hnone : regexText? glob = none := by decide +kernel
  have hlength : glob.toList.length = 12 := by decide +kernel
  obtain ⟨-, -, ⟨s, hturns, hplace, hresult⟩, -, hunmarked⟩ := scan_glob glob
  rw [hlength] at hturns hplace
  exact ⟨hnone, hunmarked.mp hnone, s, hturns, hplace, hresult.trans hnone⟩

end RecordFix.Glob
