import RecordFix.Fix.Builtin
import RecordFix.Proofs.Glob.Translation
import RecordFix.Proofs.Path.ReplacingTwice

/-!
# Joining strings and cutting them again

The expression for a single character cuts a text at the occurrences of the character
(`Regex.split_single`), and strings in which it does not occur are what stands between its
occurrences in the joined text (`Text.splitAt_intercalate`), empty strings at either end included.
So what is joined with a character and then cut at it is as it was (`Builtin.splitField_joinField`).
-/

namespace RecordFix

/-! ## Texts cut at a character -/

namespace Text

variable {sep : Char}

theorem splitAt_cons_of_ne {c : Char} (h : c ≠ sep) (rest : List Char) :
    splitAt sep (c :: rest) = (splitAt sep rest).modifyHead (c :: ·) := by
  obtain ⟨piece, pieces, hpieces⟩ := List.exists_cons_of_ne_nil (splitAt_ne_nil sep rest)
  rw [splitAt, if_neg h, hpieces]
  rfl

theorem splitAt_append {piece : List Char} (h : sep ∉ piece) (rest : List Char) :
    splitAt sep (piece ++ sep :: rest) = piece :: splitAt sep rest := by
  induction piece with
  | nil => rw [List.nil_append, splitAt, if_pos rfl]
  | cons c cs ih =>
    obtain ⟨hc, hcs⟩ := List.ne_and_not_mem_of_not_mem_cons h
    rw [List.cons_append, splitAt_cons_of_ne hc.symm, ih hcs]
    rfl

/-- Pieces that are joined with a character which is in none of them are found again. -/
theorem splitAt_intercalate {pieces : List (List Char)} (hne : pieces ≠ [])
    (h : ∀ piece ∈ pieces, sep ∉ piece) : splitAt sep ([sep].intercalate pieces) = pieces := by
  induction pieces with
  | nil => exact absurd rfl hne
  | cons piece rest ih =>
    obtain ⟨hpiece, hrest⟩ := List.forall_mem_cons.mp h
    cases rest with
    | nil => rw [List.intercalate_singleton, splitAt_of_notMem hpiece]
    | cons next others =>
      rw [List.intercalate_cons_cons, List.append_assoc, List.singleton_append,
        splitAt_append hpiece, ih (List.cons_ne_nil _ _) hrest]

end Text

/-! ## The expression for a character -/

namespace Regex

theorem searchStep_single (c : Char) (after : Bool) (index : Nat) (before : Option Char) (d : Char)
    (rest : List Char) :
    (char (.single c)).searchStep ⟨0, after⟩ ⟨index, before, d :: rest⟩ =
      if d = c then (some ⟨index, index + 1, []⟩, ⟨0, true⟩) else (none, {}) := by
  by_cases hd : d = c
  · have hmatch : (char (.single c)).matchAt? ⟨index, before, d :: rest⟩ =
        some ⟨⟨index + 1, some d, rest⟩, []⟩ := by
      simp [matchAt?, ends, Thread.take, hd]
    simp only [searchStep, hmatch, Nat.add_sub_cancel_left, if_pos hd]
    rfl
  · have hnone : (char (.single c)).matchAt? ⟨index, before, d :: rest⟩ = none := by
      simp [matchAt?, ends, Thread.take, hd]
    simp only [searchStep, hnone, if_neg hd]

/-- The matches of a character, none of them empty, cut the rest of a text where the character
occurs. `pending` has been read since the last cut. -/
theorem cutAt_searchFrom_single (c : Char) (after : Bool) (pending text : List Char) (index : Nat)
    (before : Option Char) :
    cutAt index ((char (.single c)).searchFrom ⟨0, after⟩ (index + pending.length) before text)
        (pending ++ text) =
      (Text.splitAt c text).modifyHead (pending ++ ·) := by
  induction text generalizing after pending index before with
  | nil => rfl
  | cons d rest ih =>
    rw [searchFrom, searchStep_single]
    by_cases hd : d = c
    · have hpending : (pending ++ d :: rest).take (index + pending.length - index) = pending := by
        rw [Nat.add_sub_cancel_left, List.take_left]
      have hrest : (pending ++ d :: rest).drop (index + pending.length + 1 - index) = rest := by
        rw [Nat.add_assoc, Nat.add_sub_cancel_left, ← List.drop_drop, List.drop_left]
        rfl
      have hcut := (ih true [] (index + pending.length + 1) (some d)).trans
        (congrFun List.modifyHead_id _)
      rw [if_pos hd]
      simp only [Option.toList_some, List.singleton_append, cutAt, hpending, hrest]
      rw [Text.splitAt, if_pos hd, List.modifyHead_cons, List.append_nil]
      exact congrArg (pending :: ·) hcut
    · have hlonger := ih false (pending ++ [d]) index (some d)
      rw [if_neg hd, Text.splitAt_cons_of_ne hd, List.modifyHead_modifyHead]
      simpa [Nat.add_assoc, Function.comp_def] using hlonger

theorem split_single (c : Char) (text : List Char) :
    (char (.single c)).split text = Text.splitAt c text :=
  (cutAt_searchFrom_single c false [] text 0 none).trans (congrFun List.modifyHead_id _)

end Regex

namespace CharSet

theorem ranges_single (c : Char) : (single c).ranges = [(c.toNat, c.toNat)] := by
  simp [single, range, insert, empty, Unicode.Ranges.insert]

theorem digitRanges_self (more n : Nat) : ∃ sequence, digitRanges more n n = [sequence] ∧
    sequence.length = more + 1 ∧ sequence.all (fun (lo, hi) => lo == hi) = true := by
  induction more generalizing n with
  | zero => exact ⟨[(n, n)], rfl, rfl, by simp⟩
  | succ more ih =>
    obtain ⟨sequence, hdigits, hlength, hsame⟩ := ih (n % Nat.pow 64 (more + 1))
    let digit := n / Nat.pow 64 (more + 1)
    refine ⟨(digit, digit) :: sequence, ?_, by simp [hlength], by simp [hsame]⟩
    simp only [digitRanges, if_pos, hdigits]
    rfl

/-- A code point is written in one number of bytes, where such numbers are for code points that
ascend. -/
theorem flatMap_of_mem_lengths {lengths : List (Nat × Nat × Nat)} {least most more n : Nat}
    (hascend : lengths.Pairwise fun length next => length.2.1 < next.1)
    (hmem : (least, most, more) ∈ lengths) (hleast : least ≤ n) (hmost : n ≤ most) :
    (lengths.flatMap fun (least, most, more) =>
      let lo := max n least
      let hi := min n most
      if lo ≤ hi then digitRanges more lo hi else []) = digitRanges more n n := by
  induction lengths with
  | nil => exact absurd hmem List.not_mem_nil
  | cons length rest ih =>
    obtain ⟨hnext, hrest⟩ := List.pairwise_cons.mp hascend
    rw [List.flatMap_cons]
    rcases List.mem_cons.mp hmem with rfl | hmem
    · have hlater : ∀ next ∈ rest, ¬ max n next.1 ≤ min n next.2.1 := fun next hmem => by
        have : most < next.1 := hnext next hmem
        omega
      rw [List.flatMap_eq_nil_iff.mpr fun next hmem => if_neg (hlater next hmem), List.append_nil]
      dsimp only
      rw [Nat.max_eq_left hleast, Nat.min_eq_left hmost, if_pos (Nat.le_refl n)]
    · have hother : ¬ max n length.1 ≤ min n length.2.1 := by
        have : length.2.1 < least := hnext _ hmem
        omega
      rw [ih hrest hmem]
      exact congrArg (· ++ _) (if_neg hother)

theorem byteRanges_self (c : Char) :
    ∃ more ≤ 3, byteRanges (c.toNat, c.toNat) = digitRanges more c.toNat c.toNat := by
  have hvalid : c.toNat < 0xd800 ∨ 0xdfff < c.toNat ∧ c.toNat < 0x110000 := c.valid
  obtain ⟨⟨least, most, more⟩, hmem, hleast, hmost⟩ :
      ∃ length ∈ byteLengths, length.1 ≤ c.toNat ∧ c.toNat ≤ length.2.1 := by
    simp only [byteLengths, List.exists_mem_cons_iff]
    omega
  have hmore : ∀ length ∈ byteLengths, length.2.2 ≤ 3 := by decide
  exact ⟨more, hmore _ hmem, flatMap_of_mem_lengths (by decide) hmem hleast hmost⟩

/-- A character is as large as its bytes. -/
theorem size_single_le (c : Char) : (single c).size ≤ 128 := by
  obtain ⟨more, hmore, hbytes⟩ := byteRanges_self c
  obtain ⟨sequence, hdigits, hlength, hsame⟩ := digitRanges_self more c.toNat
  rw [size, ranges_single, List.flatMap_singleton, hbytes, hdigits]
  simp only [if_pos hsame]
  omega

end CharSet

/-- A character that is written for itself is read as the expression for it alone. -/
theorem Pattern.ofChars?_quoteChar (c : Char) :
    ofChars? (Glob.quoteChar c) = some ⟨.char (.single c), []⟩ := by
  have hread : Regex.Reader.readAll (Glob.quoteChar c).length {} (Glob.quoteChar c) =
      some (Regex.Reader.addSet {} (.single c) 0) := by
    have hrun := Glob.run_quoteChar (r := {}) rfl c []
    rwa [List.append_nil] at hrun
  have hfits : (Regex.char (.single c)).fits = true :=
    decide_eq_true ((CharSet.size_single_le c).trans (by decide))
  rw [ofChars?, hread]
  exact if_pos (by rw [← hfits]; rfl)

namespace Strings

/-- The text of the expression for a character. -/
def quoted (c : Char) : String := .ofList (Glob.quoteChar c)

theorem pattern_quoted (c : Char) :
    Arguments.pattern (quoted c) = .ok ⟨.char (.single c), []⟩ := by
  rw [Arguments.pattern, Pattern.parse?, quoted, String.toList_ofList, Pattern.ofChars?_quoteChar]

/-! ## Values -/

/-- There are strings, and a character occurs in none of them. -/
def Separable (c : Char) (texts : List String) : Prop :=
  texts ≠ [] ∧ ∀ text ∈ texts, c ∉ text.toList

instance (c : Char) (texts : List String) : Decidable (Separable c texts) :=
  inferInstanceAs (Decidable (_ ∧ _))

/-- The strings of a value with a character between them. -/
def joined (c : Char) (v : Value) : Value := .string ((String.singleton c).intercalate v.strings)

/-- A value with its strings cut at a character. -/
def cut (c : Char) (v : Value) : Value := split ⟨.char (.single c), []⟩ v

variable {c : Char} {texts : List String}

theorem joined_ofStrings (c : Char) (texts : List String) :
    joined c (.ofStrings texts) = .string ((String.singleton c).intercalate texts) := by
  simp [joined, Value.ofStrings, List.flatMap_map]

theorem cut_joined (h : Separable c texts) :
    cut c (joined c (.ofStrings texts)) = .ofStrings texts := by
  obtain ⟨hne, hfree⟩ := h
  have htext : ((String.singleton c).intercalate texts).toList =
      [c].intercalate (texts.map String.toList) := by
    rw [String.toList_intercalate, String.toList_singleton]
  have hpieces : Text.splitAt c ([c].intercalate (texts.map String.toList)) =
      texts.map String.toList :=
    Text.splitAt_intercalate (by simpa using hne) (List.forall_mem_map.mpr hfree)
  rw [joined_ofStrings, cut, split, Pattern.split, Regex.split_single, htext, hpieces,
    List.map_map]
  simp [Function.comp_def]

end Strings

/-! ## Fields -/

theorem Value.get?_mapFields (p : FieldPattern) (f : Value → Value) (fields : Hash)
    (name : String) :
    Entries.get? (mapFields p f fields) name =
      (Entries.get? fields name).map fun v => if p.holds name then f v else v := by
  induction fields with
  | nil => rfl
  | cons field rest ih =>
    obtain ⟨other, v⟩ := field
    rw [mapFields_cons, Entries.get?_cons, Entries.get?_cons, ih]
    by_cases hother : other = name
    · rw [if_pos hother, if_pos hother, hother]
      rfl
    · rw [if_neg hother, if_neg hother]

namespace Builtin

open Value Strings

/-- Joining the strings at a path with a character and cutting what is there at the character go
through, whatever the path leads to. If it leads to nonempty arrays of strings alone, in which the
character does not occur, everything is as it was before. And every such array that is a field which
the path names is a string in between, and the same array afterwards. -/
theorem splitField_joinField (c : Char) (path : String) (more others : List String)
    (options choices : Options) (s : State) :
    let between := joinField.apply (path :: String.singleton c :: more) options s
    let after := splitField.apply (path :: quoted c :: others) choices between.value
    between.error = none ∧ after.error = none ∧
      ((∀ v ∈ addressed (Path.ofString path) (.hash s.record.fields),
        ∃ texts, Separable c texts ∧ v = .ofStrings texts) → after.value = s) ∧
      ('.' ∉ path.toList → ∀ name texts, (FieldPattern.ofString path).holds name = true →
        Separable c texts → Entries.get? s.record.fields name = some (.ofStrings texts) →
          Entries.get? between.value.record.fields name =
              some (.string ((String.singleton c).intercalate texts)) ∧
            Entries.get? after.value.record.fields name = some (.ofStrings texts)) := by
  have hjoin : joinField.apply (path :: String.singleton c :: more) options s =
      s.replace path fun v => .ok (joined c v) := rfl
  have hsplit (t : State) : splitField.apply (path :: quoted c :: others) choices t =
      t.replace path fun v => .ok (cut c v) := by
    have hread : splitField.apply (path :: quoted c :: others) choices t =
        .attempt t ((Arguments.pattern (quoted c)).bind fun p =>
          .ok (t.replace path fun v => .ok (split p v))) := rfl
    rw [hread, pattern_quoted]
    rfl
  obtain ⟨joinedFields, hfirst, hjoined⟩ :=
    s.replace_eq_replaceAlong path (f := fun v => .ok (joined c v)) fun _ _ => rfl
  let t : State := { s with record := { s.record with fields := joinedFields } }
  obtain ⟨fields, hsecond, hcut⟩ :=
    t.replace_eq_replaceAlong path (f := fun v => .ok (cut c v)) fun _ _ => rfl
  intro between after
  have hbetween : between = ⟨t, none⟩ := hjoin.trans hfirst
  have hafter : after = ⟨{ s with record := { s.record with fields } }, none⟩ := by
    show splitField.apply _ _ between.value = _
    rw [hbetween, hsplit, hsecond]
  rw [hafter, hbetween]
  refine ⟨rfl, rfl, fun hplaces => ?_, fun hdot name texts hnamed htexts hfield => ?_⟩
  · have hback : fields = s.record.fields := by
      rw [← hjoined, replaceAlong_replaceAlong, replaceAlong_of_fixed] at hcut
      · exact (Value.hash.inj hcut).symm
      · intro v hv
        obtain ⟨texts, htexts, rfl⟩ := hplaces v hv
        exact cut_joined htexts
    rw [hback]
  · rw [Path.ofString_of_notMem hdot] at hjoined hcut
    have hjoinedFields : mapFields (.ofString path) (joined c) s.record.fields = joinedFields :=
      Value.hash.inj hjoined
    have hfields : mapFields (.ofString path) (cut c) joinedFields = fields :=
      Value.hash.inj hcut
    have hstring : Entries.get? joinedFields name = some (joined c (.ofStrings texts)) := by
      rw [← hjoinedFields, get?_mapFields, hfield, Option.map_some, if_pos hnamed]
    refine ⟨hstring.trans (congrArg some (joined_ofStrings c texts)), ?_⟩
    show Entries.get? fields name = _
    rw [← hfields, get?_mapFields, hstring, Option.map_some, if_pos hnamed, cut_joined htexts]

/-- Empty strings at both ends and next to each other are there again after the strings have been
joined with a sign of the notation. -/
theorem splitField_joinField_keywordsSample :
    let keywords := ["", "é.t", "", "", "a b", ""]
    let s : State :=
      ⟨{}, .ofFields [("id", .string "7|8"), ("keywords", .ofStrings keywords)]⟩
    let between := joinField.apply ["keywords", "|"] [] s
    Separable '|' keywords ∧ quoted '|' = "\\|" ∧
      Entries.get? between.value.record.fields "keywords" = some (.string "|é.t|||a b|") ∧
      (splitField.apply ["keywords", "\\|"] [] between.value).value = s := by
  intro keywords s between
  have hkeywords : Separable '|' keywords := by decide
  have hliteral : FieldPattern.ofString "keywords" = .literal "keywords" :=
    FieldPattern.ofString_of_isLiteral (FieldPattern.isLiteral_of_plain (by simp))
  have hplaces : addressed (Path.ofString "keywords") (.hash s.record.fields) =
      [.ofStrings keywords] := by decide +kernel
  obtain ⟨-, -, hsame, hfields⟩ := splitField_joinField '|' "keywords" [] [] [] [] s
  have hfield := hfields (by decide) "keywords" keywords (by rw [hliteral]; rfl) hkeywords rfl
  refine ⟨hkeywords, by decide, hfield.1, hsame ?_⟩
  rw [hplaces, List.forall_mem_singleton]
  exact ⟨keywords, hkeywords, rfl⟩

end Builtin

end RecordFix
