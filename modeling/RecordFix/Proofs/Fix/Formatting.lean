import RecordFix.Fix.Format

/-!
# The grammar of format texts

A format text is written in pieces: characters other than the percent sign, pairs of percent signs,
and directives. Filling it in succeeds just if it is written in pieces whose widths are not too
great and there is a value for each directive. Then the pieces are filled in one after the other
(`Format.format_eq_ok_iff`); everything else is refused (`Format.format_grammar`).
-/

namespace RecordFix.Format

/-! ## The grammar -/

/-- A piece of a format text. -/
inductive Piece where
  | char (c : Char)
  | percent
  | directive (left : Bool) (digits : List Char)
  deriving DecidableEq, Repr

/-- The sign of a directive that puts blanks behind the value. -/
def sign (left : Bool) : List Char := if left then ['-'] else []

/-- How a piece is written. -/
def Piece.spelling : Piece → List Char
  | .char c => [c]
  | .percent => ['%', '%']
  | .directive left digits => '%' :: sign left ++ digits ++ ['s']

/-- The width that digits write in decimal; none of them write zero. -/
def widthOf (digits : List Char) : Nat := Nat.ofDigitChars 10 digits 0

/-- A character is no percent sign, and the width of a directive is a number up to the greatest. -/
def Piece.Valid : Piece → Prop
  | .char c => c ≠ '%'
  | .percent => True
  | .directive _ digits => (∀ c ∈ digits, c.isDigit = true) ∧ widthOf digits ≤ 4096

/-- The text is written in these pieces. -/
def Spells (pieces : List Piece) (text : List Char) : Prop :=
  (∀ piece ∈ pieces, piece.Valid) ∧ pieces.flatMap Piece.spelling = text

/-- How many directives there are. -/
def directives : List Piece → Nat
  | [] => 0
  | .directive _ _ :: rest => directives rest + 1
  | .char _ :: rest | .percent :: rest => directives rest

/-! ## What the pieces stand for -/

/-- The value with blanks behind it or before it, so that it has the width at least. -/
def Padded (left : Bool) (width : Nat) (value text : List Char) : Prop :=
  ∃ count : Nat,
    let blanks := List.replicate count ' '
    text = (if left then value ++ blanks else blanks ++ value) ∧
      text.length = max width value.length

/-- What pieces give with values: each directive takes the next value. -/
inductive Fills : List Piece → List String → List Char → Prop where
  | nil (values : List String) : Fills [] values []
  | char (c : Char) {rest values after} (h : Fills rest values after) :
    Fills (.char c :: rest) values (c :: after)
  | percent {rest values after} (h : Fills rest values after) :
    Fills (.percent :: rest) values ('%' :: after)
  | directive {left digits value text rest values after}
    (htext : Padded left (widthOf digits) value.toList text) (h : Fills rest values after) :
    Fills (.directive left digits :: rest) (value :: values) (text ++ after)

variable {pieces : List Piece} {values : List String} {left : Bool} {digits rest : List Char}

theorem padded_pad (left : Bool) (width : Nat) (value : List Char) :
    Padded left width value (pad left width value) := by
  refine ⟨width - value.length, rfl, ?_⟩
  unfold pad
  cases left <;> simp <;> omega

theorem eq_pad_of_padded {width : Nat} {value text : List Char} (h : Padded left width value text) :
    text = pad left width value := by
  obtain ⟨count, rfl, hlength⟩ := h
  have hcount : count = width - value.length := by
    cases left <;> simp at hlength <;> omega
  rw [hcount]
  rfl

/-- Pieces can be filled in just if there is a value for each directive. -/
theorem exists_fills_iff :
    (∃ out, Fills pieces values out) ↔ directives pieces ≤ values.length := by
  constructor
  · rintro ⟨out, h⟩
    induction h with
    | nil => exact Nat.zero_le _
    | char _ _ ih => exact ih
    | percent _ ih => exact ih
    | directive _ _ ih => exact Nat.succ_le_succ ih
  · intro h
    induction pieces generalizing values with
    | nil => exact ⟨[], .nil values⟩
    | cons piece rest ih =>
      cases piece with
      | char c => exact (ih h).imp' (c :: ·) fun _ => .char c
      | percent => exact (ih h).imp' ('%' :: ·) fun _ => .percent
      | directive left digits =>
        cases values with
        | nil => exact absurd h (Nat.not_succ_le_zero _)
        | cons value others =>
          exact (ih (Nat.le_of_succ_le_succ h)).imp' (pad left (widthOf digits) value.toList ++ ·)
            fun _ => .directive (padded_pad _ _ _)

/-! ## Widths -/

theorem digitsValue?_eq_widthOf (h : ∀ c ∈ digits, c.isDigit = true) :
    Text.digitsValue? digits = some (widthOf digits) := by
  have hfold (n : Nat) : digits.foldl (fun n c => if c.isDigit then
      n.map fun n => n * 10 + (c.toNat - 48) else none) (some n) =
        some (Nat.ofDigitChars 10 digits n) := by
    induction digits generalizing n with
    | nil => rw [Nat.ofDigitChars_nil]; rfl
    | cons c rest ih =>
      obtain ⟨hc, hrest⟩ := List.forall_mem_cons.mp h
      rw [List.foldl_cons, if_pos hc, Option.map_some, ih hrest, Nat.ofDigitChars_cons,
        Nat.mul_comm]
      rfl
  exact hfold 0

/-- A width is read, or it is too great. -/
theorem width_of_digits (h : ∀ c ∈ digits, c.isDigit = true) :
    (widthOf digits ≤ 4096 ∧ width digits = .ok (widthOf digits)) ∨
      (¬ widthOf digits ≤ 4096 ∧ ∃ message, width digits = .error (failure message)) := by
  rw [width, digitsValue?_eq_widthOf h]
  by_cases hmost : widthOf digits ≤ 4096
  · exact .inl ⟨hmost, if_pos hmost⟩
  · exact .inr ⟨hmost, _, if_neg hmost⟩

/-! ## Pieces are filled in -/

/-- A directive filled in with the next value, and what is behind it with the others. -/
def fillOn (left : Bool) (digits : List Char) (values : List String) (rest : List Char) :
    Except FixError (List Char) := do
  let (text, others) ← fill left digits values
  let after ← fillFrom .outside others rest
  pure (text ++ after)

theorem fillFrom_digits (h : ∀ c ∈ digits, c.isDigit = true) (before : List Char) :
    fillFrom (.directive left before) values (digits ++ rest) =
      fillFrom (.directive left (before ++ digits)) values rest := by
  induction digits generalizing before with
  | nil => rw [List.nil_append, List.append_nil]
  | cons c more ih =>
    obtain ⟨hc, hmore⟩ := List.forall_mem_cons.mp h
    rw [List.cons_append, fillFrom, if_pos hc, ih hmore, List.append_assoc, List.singleton_append]

theorem fillFrom_directive_end (left : Bool) (digits : List Char) (values : List String)
    (rest : List Char) :
    fillFrom (.directive left digits) values ('s' :: rest) = fillOn left digits values rest := by
  rw [fillFrom, if_neg (by decide), if_pos rfl]
  rfl

theorem fillFrom_percent_end (values : List String) (rest : List Char) :
    fillFrom .percent values ('s' :: rest) = fillOn false [] values rest := by
  rw [fillFrom, if_neg (by decide), if_neg (by decide), if_neg (by decide), if_pos rfl]
  rfl

theorem fillFrom_directive (h : ∀ c ∈ digits, c.isDigit = true) :
    fillFrom .outside values ((Piece.directive left digits).spelling ++ rest) =
      fillOn left digits values rest := by
  have hspelling : (Piece.directive left digits).spelling ++ rest =
      '%' :: (sign left ++ (digits ++ 's' :: rest)) := by simp [Piece.spelling]
  rw [hspelling, fillFrom, if_pos rfl]
  cases left with
  | true =>
    show fillFrom .percent values ('-' :: (digits ++ 's' :: rest)) = _
    rw [fillFrom, if_neg (by decide), if_pos rfl, fillFrom_digits h, List.nil_append,
      fillFrom_directive_end]
  | false =>
    show fillFrom .percent values (digits ++ 's' :: rest) = _
    cases digits with
    | nil => exact fillFrom_percent_end values rest
    | cons c more =>
      obtain ⟨hc, hmore⟩ := List.forall_mem_cons.mp h
      have hpercent : c ≠ '%' := fun heq => absurd (heq ▸ hc) (by decide)
      have hminus : c ≠ '-' := fun heq => absurd (heq ▸ hc) (by decide)
      rw [List.cons_append, fillFrom, if_neg hpercent, if_neg hminus, if_pos hc,
        fillFrom_digits hmore, List.singleton_append, fillFrom_directive_end]

/-- A text that is written in pieces is filled in with what they stand for. -/
theorem fillFrom_of_fills {out : List Char} (hvalid : ∀ piece ∈ pieces, piece.Valid)
    (h : Fills pieces values out) :
    fillFrom .outside values (pieces.flatMap Piece.spelling) = .ok out := by
  induction h with
  | nil => rfl
  | char c h ih =>
    obtain ⟨hc, hrest⟩ := List.forall_mem_cons.mp hvalid
    rw [List.flatMap_cons, Piece.spelling, List.singleton_append, fillFrom, if_neg hc, ih hrest]
    rfl
  | percent h ih =>
    rw [List.flatMap_cons, Piece.spelling, List.cons_append, fillFrom, if_pos rfl,
      List.singleton_append, fillFrom, if_pos rfl, ih (List.forall_mem_cons.mp hvalid).2]
    rfl
  | @directive left digits value text rest values after htext h ih =>
    obtain ⟨⟨hdigits, hmost⟩, hrest⟩ := List.forall_mem_cons.mp hvalid
    have hwidth : width digits = .ok (widthOf digits) := by
      obtain ⟨-, hwidth⟩ | ⟨htoo, -⟩ := width_of_digits hdigits
      · exact hwidth
      · exact absurd hmost htoo
    rw [List.flatMap_cons, fillFrom_directive hdigits, fillOn, fill, hwidth, eq_pad_of_padded htext]
    simp only [Except.map, bind, Except.bind, ih hrest]
    rfl

/-! ## What is filled in is written in pieces -/

/-- What has been read of a piece that has been begun. -/
def Place.begun : Place → List Char
  | .outside => []
  | .percent => ['%']
  | .directive left digits => '%' :: sign left ++ digits

/-- The width that has been read so far is made of digits. -/
def Place.Valid : Place → Prop
  | .directive _ digits => ∀ c ∈ digits, c.isDigit = true
  | _ => True

/-- A result that the text being written in pieces accounts for, or an error about the text. -/
def Accounts (values : List String) (text : List Char) : Except FixError (List Char) → Prop
  | .ok out => ∃ pieces, Spells pieces text ∧ Fills pieces values out
  | .error e => ∃ message, e = failure message

theorem Spells.cons {piece : Piece} (hpiece : piece.Valid) (h : Spells pieces rest) :
    Spells (piece :: pieces) (piece.spelling ++ rest) :=
  ⟨List.forall_mem_cons.mpr ⟨hpiece, h.1⟩, by rw [List.flatMap_cons, h.2]⟩

theorem Accounts.char {c : Char} (hc : c ≠ '%') {r : Except FixError (List Char)}
    (h : Accounts values rest r) : Accounts values (c :: rest) (r.map (c :: ·)) := by
  cases r with
  | error e => exact h
  | ok after =>
    obtain ⟨pieces, hspells, hfills⟩ := h
    have hchar : (Piece.char c).Valid := hc
    exact ⟨.char c :: pieces, hspells.cons hchar, .char c hfills⟩

theorem Accounts.percent {r : Except FixError (List Char)} (h : Accounts values rest r) :
    Accounts values ('%' :: '%' :: rest) (r.map ('%' :: ·)) := by
  cases r with
  | error e => exact h
  | ok after =>
    obtain ⟨pieces, hspells, hfills⟩ := h
    have hpercent : Piece.percent.Valid := trivial
    exact ⟨.percent :: pieces, hspells.cons hpercent, .percent hfills⟩

theorem accounts_fillOn (hdigits : ∀ c ∈ digits, c.isDigit = true)
    (h : ∀ others, Accounts others rest (fillFrom .outside others rest)) :
    Accounts values ((Piece.directive left digits).spelling ++ rest)
      (fillOn left digits values rest) := by
  cases values with
  | nil => exact ⟨_, rfl⟩
  | cons value others =>
    obtain ⟨hmost, hwidth⟩ | ⟨-, message, hwidth⟩ := width_of_digits hdigits
    · have hon : fillOn left digits (value :: others) rest =
          (fillFrom .outside others rest).bind
            fun after => .ok (pad left (widthOf digits) value.toList ++ after) := by
        rw [fillOn, fill, hwidth]
        rfl
      have hrest := h others
      rw [hon]
      cases hafter : fillFrom .outside others rest with
      | error e =>
        rw [hafter] at hrest
        exact hrest
      | ok after =>
        rw [hafter] at hrest
        obtain ⟨pieces, hspells, hfills⟩ := hrest
        have hvalid : (Piece.directive left digits).Valid := ⟨hdigits, hmost⟩
        exact ⟨.directive left digits :: pieces, hspells.cons hvalid,
          .directive (padded_pad _ _ _) hfills⟩
    · have hrefused : fillOn left digits (value :: others) rest = .error (failure message) := by
        rw [fillOn, fill, hwidth]
        rfl
      rw [hrefused]
      exact ⟨message, rfl⟩

theorem accounts_fillFrom (place : Place) (hplace : place.Valid) (values : List String)
    (cs : List Char) : Accounts values (place.begun ++ cs) (fillFrom place values cs) := by
  induction cs generalizing place values with
  | nil =>
    cases place with
    | outside => exact ⟨[], ⟨by simp, rfl⟩, .nil values⟩
    | percent | directive => exact ⟨_, rfl⟩
  | cons c rest ih =>
    have hnext : ∀ others, Accounts others rest (fillFrom .outside others rest) :=
      ih .outside trivial
    cases place with
    | outside =>
      rw [fillFrom]
      by_cases hc : c = '%'
      · rw [if_pos hc, hc]
        exact ih .percent trivial values
      · rw [if_neg hc]
        exact (hnext values).char hc
    | percent =>
      rw [fillFrom]
      by_cases hpercent : c = '%'
      · rw [if_pos hpercent, hpercent]
        exact (hnext values).percent
      rw [if_neg hpercent]
      by_cases hminus : c = '-'
      · rw [if_pos hminus, hminus]
        exact ih (.directive true []) (by simp [Place.Valid]) values
      rw [if_neg hminus]
      by_cases hdigit : c.isDigit = true
      · rw [if_pos hdigit]
        exact ih (.directive false [c]) (by simp [Place.Valid, hdigit]) values
      rw [if_neg hdigit]
      by_cases hend : c = 's'
      · rw [if_pos hend, hend]
        exact accounts_fillOn (by simp) hnext
      · rw [if_neg hend]
        exact ⟨_, rfl⟩
    | directive left digits =>
      rw [fillFrom]
      by_cases hdigit : c.isDigit = true
      · have hlonger : (Place.directive left (digits ++ [c])).Valid := by
          intro d hd
          rcases List.mem_append.mp hd with hd | hd
          · exact hplace d hd
          · rw [List.mem_singleton.mp hd]
            exact hdigit
        have hread : (Place.directive left digits).begun ++ c :: rest =
            (Place.directive left (digits ++ [c])).begun ++ rest := by simp [Place.begun]
        rw [if_pos hdigit, hread]
        exact ih _ hlonger values
      rw [if_neg hdigit]
      by_cases hend : c = 's'
      · have hread : (Place.directive left digits).begun ++ c :: rest =
            (Piece.directive left digits).spelling ++ rest := by
          simp [Place.begun, Piece.spelling, hend]
        rw [if_pos hend, hread]
        exact accounts_fillOn hplace hnext
      · rw [if_neg hend]
        exact ⟨_, rfl⟩

/-! ## Format texts -/

theorem format_eq_ok_iff {text out : String} :
    format text values = .ok out ↔
      ∃ pieces, Spells pieces text.toList ∧ Fills pieces values out.toList := by
  constructor
  · intro h
    have haccounts := accounts_fillFrom .outside trivial values text.toList
    cases hfilled : fillFrom .outside values text.toList with
    | error e =>
      rw [format, hfilled] at h
      cases h
    | ok filled =>
      rw [format, hfilled] at h
      obtain rfl : String.ofList filled = out := Except.ok.inj h
      rw [hfilled] at haccounts
      rw [String.toList_ofList]
      exact haccounts
  · rintro ⟨pieces, ⟨hvalid, hspelling⟩, hfills⟩
    rw [format, ← hspelling, fillFrom_of_fills hvalid hfills]
    show Except.ok (String.ofList out.toList) = .ok out
    rw [String.ofList_toList]

/-- A text that is refused is refused for its argument. -/
theorem eq_failure_of_format_eq_error {text : String} {e : FixError}
    (h : format text values = .error e) : ∃ message, e = failure message := by
  have haccounts := accounts_fillFrom .outside trivial values text.toList
  cases hfilled : fillFrom .outside values text.toList with
  | ok filled =>
    rw [format, hfilled] at h
    cases h
  | error err =>
    rw [format, hfilled] at h
    obtain rfl : err = e := Except.error.inj h
    rw [hfilled] at haccounts
    exact haccounts

/-- A format text is accepted just if it is written in pieces of the grammar, with a value for each
directive, and gives what the pieces stand for; any other is refused with an error about the
argument. -/
theorem format_grammar (text : String) (values : List String) :
    ((∃ out, format text values = .ok out) ↔
      ∃ pieces, Spells pieces text.toList ∧ directives pieces ≤ values.length) ∧
    (∀ out, format text values = .ok out ↔
      ∃ pieces, Spells pieces text.toList ∧ Fills pieces values out.toList) ∧
    ∀ e, format text values = .error e → ∃ message, e = .invalidArgument "format" message := by
  refine ⟨⟨?_, ?_⟩, fun out => format_eq_ok_iff, fun e => eq_failure_of_format_eq_error⟩
  · rintro ⟨out, h⟩
    obtain ⟨pieces, hspells, hfills⟩ := format_eq_ok_iff.mp h
    exact ⟨pieces, hspells, exists_fills_iff.mp ⟨_, hfills⟩⟩
  · rintro ⟨pieces, hspells, henough⟩
    obtain ⟨out, hfills⟩ := exists_fills_iff.mpr henough
    refine ⟨.ofList out, format_eq_ok_iff.mpr ⟨pieces, hspells, ?_⟩⟩
    rwa [String.toList_ofList]

example : format "%-4s|%3s%%" ["ab", "7"] = .ok "ab  |  7%" := by decide

end RecordFix.Format
