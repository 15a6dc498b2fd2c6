import RecordFix.Glob

/-!
# The notation of globs

`Glob.Writes text ps` is the grammar of globs: the text writes these parts. Every text writes
exactly one list of parts, the one that `Glob.parts` finds (`Glob.writes_iff`). What the parts stand
for is `Glob.Fits`, for one alternative between bars.
-/

namespace RecordFix.Glob

/-! ## Grammar -/

/-- What stands between the brackets of a class: at least one character, none of them a closing
bracket. A sign in front says that the others are meant; without it the first character is not one
of the signs. -/
inductive WritesClass : List Char → Bool → List Char → Prop
  | listed {members : List Char} : members ≠ [] → ']' ∉ members → members.head? ≠ some '!' →
      members.head? ≠ some '^' → WritesClass members false members
  | unlisted {sign : Char} {members : List Char} : sign = '!' ∨ sign = '^' → members ≠ [] →
      ']' ∉ members → WritesClass (sign :: members) true members

/-- The text writes the parts. A bracket that opens no class is an ordinary character. -/
inductive Writes : List Char → List Part → Prop
  | nil : Writes [] []
  | anyChars {rest : List Char} {ps : List Part} : Writes rest ps →
      Writes ('*' :: rest) (.anyChars :: ps)
  | anyChar {rest : List Char} {ps : List Part} : Writes rest ps →
      Writes ('?' :: rest) (.anyChar :: ps)
  | bar {rest : List Char} {ps : List Part} : Writes rest ps → Writes ('|' :: rest) (.bar :: ps)
  | class {body members rest : List Char} {negated : Bool} {ps : List Part} :
      WritesClass body negated members → Writes rest ps →
      Writes ('[' :: (body ++ ']' :: rest)) (.class negated members :: ps)
  | bracket {rest : List Char} {ps : List Part} :
      (∀ body negated members after, rest = body ++ ']' :: after →
        ¬ WritesClass body negated members) →
      Writes rest ps → Writes ('[' :: rest) (.char '[' :: ps)
  | char {c : Char} {rest : List Char} {ps : List Part} : c ∉ ['*', '?', '|', '['] →
      Writes rest ps → Writes (c :: rest) (.char c :: ps)

variable {text rest : List Char} {ps : List Part}

theorem splitOnce_eq_some_iff {sep : Char} {before after : List Char} :
    Text.splitOnce sep text = some (before, after) ↔
      text = before ++ sep :: after ∧ sep ∉ before := by
  induction text generalizing before with
  | nil => simp [Text.splitOnce]
  | cons c rest ih =>
    rw [Text.splitOnce]
    split
    · next hc =>
      subst hc
      cases before with
      | nil => simp
      | cons d before =>
        refine iff_of_false (fun h => by cases h) ?_
        rintro ⟨heq, hnot⟩
        exact hnot ((List.cons.inj heq).1 ▸ List.mem_cons_self)
    · next hc =>
      rw [Option.map_eq_some_iff]
      constructor
      · rintro ⟨⟨first, others⟩, hsplit, heq⟩
        cases heq
        obtain ⟨rfl, hnot⟩ := ih.mp hsplit
        exact ⟨rfl, List.not_mem_cons_of_ne_of_not_mem (Ne.symm hc) hnot⟩
      · rintro ⟨heq, hnot⟩
        cases before with
        | nil => exact absurd (List.cons.inj heq).1 hc
        | cons d before =>
          obtain ⟨rfl, rfl⟩ := List.cons.inj heq
          exact ⟨(before, after), ih.mpr ⟨rfl, List.not_mem_of_not_mem_cons hnot⟩, rfl⟩

/-- The members of a class up to its closing bracket. -/
theorem classBody_iff {negated : Bool} {body after : List Char} {p : Part} :
    (match Text.splitOnce ']' body with
      | some (c :: members, rest) => some (Part.class negated (c :: members), rest)
      | _ => none) = some (p, after) ↔
    ∃ members, p = .class negated members ∧ body = members ++ ']' :: after ∧ members ≠ [] ∧
      ']' ∉ members := by
  constructor
  · intro h
    split at h
    · next heq =>
      cases h
      obtain ⟨hbody, hnot⟩ := splitOnce_eq_some_iff.mp heq
      exact ⟨_, rfl, hbody, List.cons_ne_nil _ _, hnot⟩
    · cases h
  · rintro ⟨members, rfl, hbody, hne, hnot⟩
    rw [splitOnce_eq_some_iff.mpr ⟨hbody, hnot⟩]
    cases members with
    | nil => exact absurd rfl hne
    | cons c members => rfl

theorem negation_sign {c : Char} (h : c = '!' ∨ c = '^') (rest : List Char) :
    negation (c :: rest) = (true, rest) := by
  rcases h with rfl | rfl <;> rfl

theorem negation_plain {c : Char} (h : ¬ (c = '!' ∨ c = '^')) (rest : List Char) :
    negation (c :: rest) = (false, c :: rest) := by
  obtain ⟨hbang, hcircumflex⟩ := not_or.mp h
  simp [negation, hbang, hcircumflex]

theorem classAt?_eq_some_iff {p : Part} {after : List Char} :
    classAt? text = some (p, after) ↔
      ∃ body negated members, p = .class negated members ∧ text = body ++ ']' :: after ∧
        WritesClass body negated members := by
  have hbody : classAt? text = some (p, after) ↔ ∃ members, p = .class (negation text).1 members ∧
      (negation text).2 = members ++ ']' :: after ∧ members ≠ [] ∧ ']' ∉ members :=
    classBody_iff
  rw [hbody]
  constructor
  · rintro ⟨members, rfl, hbody, hne, hnot⟩
    cases text with
    | nil => simp [negation] at hbody
    | cons c rest =>
      by_cases hc : c = '!' ∨ c = '^'
      · rw [negation_sign hc] at hbody ⊢
        exact ⟨c :: members, true, members, rfl, congrArg (c :: ·) hbody, .unlisted hc hne hnot⟩
      · rw [negation_plain hc] at hbody ⊢
        obtain ⟨d, members, rfl⟩ := List.exists_cons_of_ne_nil hne
        obtain ⟨rfl, hrest⟩ := List.cons.inj hbody
        refine ⟨c :: members, false, c :: members, rfl, hbody, .listed hne hnot ?_ ?_⟩
        · exact fun h => hc (.inl (Option.some.inj h))
        · exact fun h => hc (.inr (Option.some.inj h))
  · rintro ⟨body, negated, members, rfl, rfl, hclass⟩
    cases hclass with
    | listed hne hnot hbang hcircumflex =>
      obtain ⟨d, more, rfl⟩ := List.exists_cons_of_ne_nil hne
      have hd : ¬ (d = '!' ∨ d = '^') := by simpa using And.intro hbang hcircumflex
      rw [List.cons_append, negation_plain hd]
      exact ⟨d :: more, rfl, rfl, hne, hnot⟩
    | @unlisted sign _ hsign hne hnot =>
      rw [List.cons_append, negation_sign hsign]
      exact ⟨members, rfl, rfl, hne, hnot⟩

theorem parts_class {body members : List Char} {negated : Bool}
    (h : WritesClass body negated members) (rest : List Char) :
    parts ('[' :: (body ++ ']' :: rest)) = .class negated members :: parts rest := by
  have hclass : classAt? (body ++ ']' :: rest) = some (.class negated members, rest) :=
    classAt?_eq_some_iff.mpr ⟨body, negated, members, rfl, rfl, h⟩
  rw [parts]
  simp only [Char.reduceEq, if_false, if_true]
  split
  · next heq =>
    cases hclass.symm.trans heq
    rfl
  · next heq => cases hclass.symm.trans heq

theorem parts_bracket (h : classAt? rest = none) :
    parts ('[' :: rest) = .char '[' :: parts rest := by
  rw [parts]
  simp only [Char.reduceEq, if_false, if_true]
  split
  · next heq => cases h.symm.trans heq
  · rfl

theorem parts_char {c : Char} (h : c ∉ ['*', '?', '|', '[']) (rest : List Char) :
    parts (c :: rest) = .char c :: parts rest := by
  obtain ⟨hstar, hquestion, hbar, hbracket⟩ :
      c ≠ '*' ∧ c ≠ '?' ∧ c ≠ '|' ∧ c ≠ '[' := by simpa using h
  rw [parts, if_neg hstar, if_neg hquestion, if_neg hbar, if_neg hbracket]

/-- Every text writes a list of parts. -/
theorem writes_parts (text : List Char) : Writes text (parts text) := by
  fun_induction parts text with
  | case1 => exact .nil
  | case2 rest ih => exact .anyChars ih
  | case3 rest _ ih => exact .anyChar ih
  | case4 rest _ _ ih => exact .bar ih
  | case5 rest p after hclass _ _ _ ih =>
    obtain ⟨body, negated, members, rfl, rfl, hwrites⟩ := classAt?_eq_some_iff.mp hclass
    exact .class hwrites ih
  | case6 rest hclass _ _ _ ih =>
    refine .bracket (fun body negated members after hrest hwrites => ?_) ih
    cases hclass.symm.trans (classAt?_eq_some_iff.mpr ⟨body, negated, members, rfl, hrest, hwrites⟩)
  | case7 c rest hstar hquestion hbar hbracket ih =>
    exact .char (by simp [hstar, hquestion, hbar, hbracket]) ih

/-- A text writes just the parts that are read off it. -/
theorem writes_iff : Writes text ps ↔ parts text = ps := by
  constructor
  · intro h
    induction h with
    | nil => rw [parts]
    | anyChars _ ih => rw [parts, if_pos rfl, ih]
    | anyChar _ ih => rw [parts, if_neg (by decide), if_pos rfl, ih]
    | bar _ ih => rw [parts, if_neg (by decide), if_neg (by decide), if_pos rfl, ih]
    | «class» hclass _ ih => rw [parts_class hclass, ih]
    | bracket hno _ ih =>
      rw [parts_bracket, ih]
      refine Option.eq_none_iff_forall_ne_some.mpr ?_
      rintro ⟨p, after⟩ hclass
      obtain ⟨body, negated, members, -, hrest, hwrites⟩ := classAt?_eq_some_iff.mp hclass
      exact hno body negated members after hrest hwrites
    | char hc _ ih => rw [parts_char hc, ih]
  · rintro rfl
    exact writes_parts text

/-! ## What parts stand for -/

/-- A name as a whole fits the parts of one alternative. -/
inductive Fits : List Part → List Char → Prop
  | nil : Fits [] []
  | anyChars {run name : List Char} {ps : List Part} : '\n' ∉ run → Fits ps name →
      Fits (.anyChars :: ps) (run ++ name)
  | anyChar {c : Char} {name : List Char} {ps : List Part} : c ≠ '\n' → Fits ps name →
      Fits (.anyChar :: ps) (c :: name)
  | listed {c : Char} {members name : List Char} {ps : List Part} : c ∈ members → Fits ps name →
      Fits (.class false members :: ps) (c :: name)
  | unlisted {c : Char} {members name : List Char} {ps : List Part} : c ∉ members → Fits ps name →
      Fits (.class true members :: ps) (c :: name)
  | char {c : Char} {name : List Char} {ps : List Part} : Fits ps name →
      Fits (.char c :: ps) (c :: name)

/-- The alternatives between bars, where `alt` has been read of the first of them. -/
def alternativesFrom (alt : List Part) : List Part → List (List Part)
  | [] => [alt]
  | .bar :: ps => alt :: alternativesFrom [] ps
  | p :: ps => alternativesFrom (alt ++ [p]) ps

/-- The alternatives between bars. -/
def alternatives (ps : List Part) : List (List Part) := alternativesFrom [] ps

theorem exists_alternativesFrom (alt ps : List Part) :
    ∃ done last, alternativesFrom alt ps = done ++ [last] := by
  induction ps generalizing alt with
  | nil => exact ⟨[], alt, rfl⟩
  | cons p ps ih =>
    cases p with
    | bar =>
      obtain ⟨done, last, heq⟩ := ih []
      exact ⟨alt :: done, last, congrArg (alt :: ·) heq⟩
    | _ => exact ih _

theorem fits_append {ps qs : List Part} {name : List Char} :
    Fits (ps ++ qs) name ↔ ∃ first last, name = first ++ last ∧ Fits ps first ∧ Fits qs last := by
  constructor
  · intro h
    induction ps generalizing name with
    | nil => exact ⟨[], name, rfl, .nil, h⟩
    | cons p ps ih =>
      cases h with
      | @anyChars run _ _ hrun h =>
        obtain ⟨first, last, rfl, hfirst, hlast⟩ := ih h
        exact ⟨run ++ first, last, (List.append_assoc ..).symm, .anyChars hrun hfirst, hlast⟩
      | anyChar hc h =>
        obtain ⟨first, last, rfl, hfirst, hlast⟩ := ih h
        exact ⟨_ :: first, last, rfl, .anyChar hc hfirst, hlast⟩
      | listed hc h =>
        obtain ⟨first, last, rfl, hfirst, hlast⟩ := ih h
        exact ⟨_ :: first, last, rfl, .listed hc hfirst, hlast⟩
      | unlisted hc h =>
        obtain ⟨first, last, rfl, hfirst, hlast⟩ := ih h
        exact ⟨_ :: first, last, rfl, .unlisted hc hfirst, hlast⟩
      | char h =>
        obtain ⟨first, last, rfl, hfirst, hlast⟩ := ih h
        exact ⟨_ :: first, last, rfl, .char hfirst, hlast⟩
  · rintro ⟨first, last, rfl, hfirst, hlast⟩
    induction hfirst with
    | nil => exact hlast
    | anyChars hrun _ ih =>
      rw [List.append_assoc]
      exact .anyChars hrun ih
    | anyChar hc _ ih => exact .anyChar hc ih
    | listed hc _ ih => exact .listed hc ih
    | unlisted hc _ ih => exact .unlisted hc ih
    | char _ ih => exact .char ih

theorem fits_nil {name : List Char} : Fits [] name ↔ name = [] := by
  constructor
  · intro h
    cases h
    rfl
  · rintro rfl
    exact .nil

theorem fits_anyChars {name : List Char} : Fits [.anyChars] name ↔ '\n' ∉ name := by
  constructor
  · intro h
    cases h with
    | anyChars hrun h =>
      obtain rfl := fits_nil.mp h
      simpa using hrun
  · intro h
    simpa using Fits.anyChars h .nil

/-- The characters that a part stands for, if it stands for one. -/
def Part.admits : Part → Char → Bool
  | .anyChar, c => c != '\n'
  | .class negated members, c => members.contains c != negated
  | .char d, c => c == d
  | .anyChars, _ | .bar, _ => false

theorem fits_single {p : Part} (h : p ≠ .anyChars) {name : List Char} :
    Fits [p] name ↔ ∃ c, p.admits c = true ∧ name = [c] := by
  constructor
  · intro hfits
    cases hfits with
    | anyChars => exact absurd rfl h
    | anyChar hc hrest =>
      obtain rfl := fits_nil.mp hrest
      exact ⟨_, by simpa [Part.admits] using hc, rfl⟩
    | listed hc hrest =>
      obtain rfl := fits_nil.mp hrest
      exact ⟨_, by simpa [Part.admits] using hc, rfl⟩
    | unlisted hc hrest =>
      obtain rfl := fits_nil.mp hrest
      exact ⟨_, by simpa [Part.admits] using hc, rfl⟩
    | char hrest =>
      obtain rfl := fits_nil.mp hrest
      exact ⟨_, by simp [Part.admits], rfl⟩
  · rintro ⟨c, hc, rfl⟩
    cases p with
    | anyChars => exact absurd rfl h
    | bar => cases hc
    | anyChar => exact .anyChar (by simpa [Part.admits] using hc) .nil
    | char d =>
      obtain rfl : c = d := by simpa [Part.admits] using hc
      exact .char .nil
    | «class» negated members =>
      cases negated
      · exact .listed (by simpa [Part.admits] using hc) .nil
      · exact .unlisted (by simpa [Part.admits] using hc) .nil

/-! ## Texts without wildcards -/

theorem parts_eq_map (h : Writes text ps) (hplain : ps.any Part.isWildcard = false) :
    ps = text.map .char := by
  induction h with
  | nil => rfl
  | bracket _ _ ih => exact congrArg (.char '[' :: ·) (ih (by simpa [Part.isWildcard] using hplain))
  | @char c _ _ _ _ ih =>
    exact congrArg (.char c :: ·) (ih (by simpa [Part.isWildcard] using hplain))
  | _ => simp [Part.isWildcard] at hplain

theorem alternatives_map_char (text : List Char) :
    alternatives (text.map .char) = [text.map .char] := by
  have hfrom (alt : List Part) :
      alternativesFrom alt (text.map .char) = [alt ++ text.map .char] := by
    induction text generalizing alt with
    | nil => simp [alternativesFrom]
    | cons c text ih => simp [alternativesFrom, ih]
  exact hfrom []

theorem fits_map_char {name : List Char} : Fits (text.map .char) name ↔ name = text := by
  induction text generalizing name with
  | nil => exact fits_nil
  | cons c text ih =>
    constructor
    · intro h
      cases h with
      | char h => exact congrArg (c :: ·) (ih.mp h)
    · rintro rfl
      exact .char (ih.mpr rfl)

theorem parts_plain (h : ∀ c ∈ text, c ∉ ['*', '?', '|', '[']) : parts text = text.map .char := by
  induction text with
  | nil => rw [parts, List.map_nil]
  | cons c rest ih =>
    obtain ⟨hc, hrest⟩ := List.forall_mem_cons.mp h
    rw [parts_char hc, ih hrest, List.map_cons]

/-- The classes among the parts are written in brackets. -/
theorem writesClass_of_mem (h : Writes text ps) {negated : Bool} {members : List Char}
    (hmem : .class negated members ∈ ps) : ∃ body, WritesClass body negated members := by
  induction h with
  | nil => cases hmem
  | «class» hclass _ ih =>
    rcases List.mem_cons.mp hmem with heq | hmem
    · cases heq
      exact ⟨_, hclass⟩
    · exact ih hmem
  | _ =>
    rename_i ih
    rcases List.mem_cons.mp hmem with heq | hmem
    · cases heq
    · exact ih hmem

end RecordFix.Glob

namespace RecordFix

theorem FieldPattern.isLiteral_of_plain {s : String}
    (h : ∀ c ∈ s.toList, c ∉ ['*', '?', '|', '[']) : (ofString s).isLiteral := by
  simp [ofString, Glob.regexText?, Glob.parts_plain h, Glob.Part.isWildcard, isLiteral]

end RecordFix
