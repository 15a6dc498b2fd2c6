import RecordFix.Proofs.Regex.Extending
import RecordFix.Regex.Bracket

/-!
# Reading classes on past the end of an expression

A class in brackets is closed by a bracket, which is not among what follows an expression. So a
class is read off an expression exactly as it is read off the longer text
(`Regex.together_readClass`).
-/

namespace RecordFix.Regex

variable {text longer rest rest' : List Char} {f : Flags}

/-! ## Named classes -/

/-- The class whose name ends at the first colon, with what follows its closing bracket. -/
def asciiClassOf (negated : Bool) (text : List Char) : Option (CharSet × Bool × List Char) :=
  match text.dropWhile (· != ':') with
  | ':' :: ']' :: rest =>
    (asciiClass? (.ofList (text.takeWhile (· != ':')))).map fun s => (s, negated, rest)
  | _ => none

/-- Whether a circumflex negates a class, and what follows it. -/
def circumflex (text : List Char) : Bool × List Char :=
  match text with
  | '^' :: rest => (true, rest)
  | rest => (false, rest)

theorem together_circumflex (h : Extends text longer) :
    Together text (some (circumflex text)) (some (circumflex longer)) := by
  cases h with
  | same => exact .both List.suffix_rfl .same
  | more => exact .both List.suffix_rfl .more
  | @cons c rest rest' h =>
    by_cases hc : c = '^'
    · subst hc
      exact .both (List.suffix_cons _ rest) h
    · have hplain (rest : List Char) : circumflex (c :: rest) = (false, c :: rest) := by
        simp [circumflex, hc]
      rw [hplain, hplain]
      exact .both List.suffix_rfl (.cons c h)

theorem readAsciiClass_colon (text : List Char) : readAsciiClass (':' :: text) =
    asciiClassOf (circumflex text).1 (circumflex text).2 := rfl

theorem readAsciiClass_of_ne {c : Char} (hc : c ≠ ':') (rest : List Char) :
    readAsciiClass (c :: rest) = none := by
  unfold readAsciiClass
  split
  · next heq => exact absurd (List.cons.inj heq).1 hc
  · rfl

/-- What has been read of a named class, with what is left. -/
def asciiRest (read : Option (CharSet × Bool × List Char)) :
    Option ((CharSet × Bool) × List Char) :=
  read.map fun (s, negated, rest) => ((s, negated), rest)

theorem together_asciiClassOf (h : Extends text longer) (negated : Bool) :
    Together text (asciiRest (asciiClassOf negated text))
      (asciiRest (asciiClassOf negated longer)) := by
  have hsuffix := List.dropWhile_suffix (· != ':') (l := text)
  unfold asciiClassOf
  rcases extends_span h (p := (· != ':')) rfl with
    ⟨hdrop, hdrop'⟩ | ⟨htake, c, rest, rest', hext, hdrop, hdrop'⟩
  · rw [hdrop, hdrop']
    exact .none
  · rw [hdrop, hdrop', htake]
    rw [hdrop] at hsuffix
    by_cases hbracket : c = ':' ∧ rest.head? = some ']'
    · obtain ⟨rfl, hhead⟩ := hbracket
      cases hext with
      | same => cases hhead
      | more => cases hhead
      | @cons d rest rest' hext =>
        cases hhead
        have hrest := ((List.suffix_cons ']' rest).trans (List.suffix_cons ':' _)).trans hsuffix
        simp only [asciiRest, Option.map_map]
        exact .mapOption _ _ hrest hext
    · have hhead : rest'.head? = some ']' → rest.head? = some ']' := by
        cases hext with
        | same => exact id
        | more => exact fun h => by cases h
        | cons d hext => exact id
      split
      · next heq =>
        cases heq
        exact absurd ⟨rfl, rfl⟩ hbracket
      · split
        · next heq =>
          cases heq
          exact absurd ⟨rfl, hhead rfl⟩ hbracket
        · exact .none

theorem together_readAsciiClass (h : Extends text longer) :
    Together text (asciiRest (readAsciiClass text)) (asciiRest (readAsciiClass longer)) := by
  cases h with
  | same => exact .none
  | more => exact .none
  | @cons c rest rest' h =>
    refine Along.mono ?_ (List.suffix_cons c rest)
    by_cases hc : c = ':'
    · subst hc
      rw [readAsciiClass_colon, readAsciiClass_colon]
      have hsign := together_circumflex h
      generalize circumflex rest = sign at hsign ⊢
      generalize circumflex rest' = sign' at hsign ⊢
      cases hsign with
      | @both negated _ _ hrest hext => exact (together_asciiClassOf hext negated).mono hrest
    · rw [readAsciiClass_of_ne hc, readAsciiClass_of_ne hc]
      exact .none

/-! ## Items -/

/-- The sign after blanks is the same, or there is none any more and the closing follows. -/
theorem signAfterBlanks_eq_or (h : Extends text longer) (f : Flags) :
    signAfterBlanks f longer = signAfterBlanks f text ∨
      signAfterBlanks f text = none ∧ signAfterBlanks f longer = some ')' := by
  have hhead {text longer : List Char} (h : Extends text longer) : longer.head? = text.head? ∨
      text.head? = none ∧ longer.head? = some ')' := by
    cases h with
    | same => exact .inl rfl
    | more => exact .inr ⟨rfl, rfl⟩
    | cons c h => exact .inl rfl
  have hblank : Unicode.isBlank ')' = false := by decide
  unfold signAfterBlanks
  split
  · exact hhead h
  · have hdrop := extends_dropWhile h hblank
    generalize text.dropWhile Unicode.isBlank = text at hdrop
    generalize longer.dropWhile Unicode.isBlank = longer at hdrop
    cases hdrop with
    | same => exact .inl rfl
    | more => exact .inr ⟨rfl, rfl⟩
    | @cons c text longer hdrop =>
      by_cases hc : c = '#'
      · subst hc
        exact hhead (extends_dropWhile hdrop hblank)
      · exact .inl (by simp [hc])

theorem along_readClassItem_cons (h : Extends rest rest') (c : Char) :
    Along (LostEscape f) rest (readClassItem f (c :: rest)) (readClassItem f (c :: rest')) := by
  by_cases hc : c = '\\'
  · subst hc
    exact along_readEscape h
  · simp only [readClassItem]
    exact .both List.suffix_rfl h

theorem along_readClassItem (h : Extends text longer) :
    Along (LostEscape f) text (readClassItem f text) (readClassItem f longer) := by
  cases h with
  | same => exact .none
  | more =>
    refine .lost fun p rest ho => .inl ?_
    cases ho
    exact List.suffix_rfl
  | @cons c rest rest' h => exact (along_readClassItem_cons h c).mono (List.suffix_cons c rest)

/-! ## Ranges -/

/-- No bracket is left to close a class. -/
def Unclosed (rest : List Char) : Prop := ']' ∉ rest

theorem Unclosed.suffix {text : List Char} (h : Unclosed text) (hrest : rest <:+ text) :
    Unclosed rest :=
  fun hmem => h (hrest.subset hmem)

theorem unclosed_closing : Unclosed closing := by simp [Unclosed, closing]

theorem Cut.unclosed (h : Cut rest) : Unclosed rest :=
  (show Unclosed ['$'] by simp [Unclosed]).suffix h

/-- The range from one character to another. -/
def rangeSet? (f : Flags) (first last : Primitive) (rest : List Char) :
    Option (CharSet × List Char) :=
  match first, last with
  | .literal lo _, .literal hi _ =>
    if hi < lo || (!f.unicode && (127 < lo.toNat || 127 < hi.toNat)) then none
    else some (.range lo hi, rest)
  | _, _ => none

theorem rangeSet?_look (f : Flags) (first : Primitive) (holds : Look) (rest : List Char) :
    rangeSet? f first (.look holds) rest = none := by
  cases first <;> rfl

theorem rangeSet?_eq_map (f : Flags) (first last : Primitive) : ∃ s : Option CharSet,
    ∀ rest, rangeSet? f first last rest = s.map fun s => (s, rest) := by
  unfold rangeSet?
  split
  · split
    · exact ⟨none, fun _ => rfl⟩
    · exact ⟨some _, fun _ => rfl⟩
  · exact ⟨none, fun _ => rfl⟩

/-- A sign of a class or the range that it starts, by what follows it. -/
def readRangeFrom (f : Flags) (first : Primitive) (text : List Char) :
    Option (CharSet × List Char) :=
  let single := (classItemSet? f first).map fun s => (s, text)
  match text with
  | [] => none
  | '-' :: after =>
    if signAfterBlanks f after == some ']' || signAfterBlanks f after == some '-' then single
    else (readClassItem f (f.skip after)).bind fun (last, rest) => rangeSet? f first last rest
  | _ => single

theorem readClassRange_eq (f : Flags) (text : List Char) : readClassRange f text =
    (readClassItem f text).bind fun (first, rest) => readRangeFrom f first (f.skip rest) := rfl

theorem readRangeFrom_look (f : Flags) (holds : Look) (text : List Char) :
    readRangeFrom f (.look holds) text = none := by
  have hset (last : Primitive) (rest : List Char) : rangeSet? f (.look holds) last rest = none :=
    rfl
  have hsingle : classItemSet? f (.look holds) = none := rfl
  unfold readRangeFrom
  split
  · rfl
  · split
    · rw [hsingle]
      rfl
    · simp [hset]
  · rw [hsingle]
    rfl

theorem along_readRangeFrom (h : Extends text longer) (first : Primitive) :
    Along (fun _ rest => Unclosed rest) text (readRangeFrom f first text)
      (readRangeFrom f first longer) := by
  cases h with
  | same => exact .none
  | more =>
    refine .lost fun s rest ho => ?_
    obtain ⟨_, -, heq⟩ := Option.map_eq_some_iff.mp (show Option.map _ _ = _ from ho)
    cases heq
    exact unclosed_closing
  | @cons c rest rest' h =>
    by_cases hc : c = '-'
    · subst hc
      have hsign {c : Char} (hc : c ≠ ')') :
          (signAfterBlanks f rest' == some c) = (signAfterBlanks f rest == some c) := by
        rcases signAfterBlanks_eq_or h f with heq | ⟨hnone, hsome⟩
        · rw [heq]
        · rw [hnone, hsome]
          simpa using hc.symm
      have hitem := along_readClassItem (f := f) (extends_skip h f)
      have hsuffix := skip_suffix_cons f '-' rest
      simp only [readRangeFrom, hsign (show ']' ≠ ')' by decide), hsign (show '-' ≠ ')' by decide)]
      split
      · exact .mapOption _ _ List.suffix_rfl (.cons _ h)
      · generalize readClassItem f (f.skip rest) = last at hitem ⊢
        generalize readClassItem f (f.skip rest') = last' at hitem ⊢
        refine Along.mono ?_ hsuffix
        cases hitem with
        | @both last after _ hrest hext =>
          obtain ⟨s, hs⟩ := rangeSet?_eq_map f first last
          simp only [Option.bind_some, hs]
          exact .mapOption _ _ hrest hext
        | lost hlost =>
          refine .lost fun s after ho => ?_
          obtain ⟨⟨last, rest⟩, hlast, hrange⟩ := Option.bind_eq_some_iff.mp ho
          rcases hlost last rest hlast with hcut | ⟨⟨holds, rfl⟩, -⟩
          · obtain ⟨s, hs⟩ := rangeSet?_eq_map f first last
            obtain ⟨_, -, heq⟩ := Option.map_eq_some_iff.mp ((hs rest).symm.trans hrange)
            cases heq
            exact hcut.unclosed
          · cases (rangeSet?_look f first holds rest).symm.trans hrange
    · have hsingle (rest : List Char) : readRangeFrom f first (c :: rest) =
          (classItemSet? f first).map fun s => (s, c :: rest) := by
        simp [readRangeFrom, hc]
      rw [hsingle, hsingle]
      exact .mapOption _ _ List.suffix_rfl (.cons c h)

/-- What is lost when a class is cut off cannot close it any more. -/
theorem along_readClassRange (h : Extends rest rest') (c : Char) :
    Along (fun _ rest => Unclosed rest) rest (readClassRange f (c :: rest))
      (readClassRange f (c :: rest')) := by
  have hitem := along_readClassItem_cons (f := f) h c
  rw [readClassRange_eq, readClassRange_eq]
  generalize readClassItem f (c :: rest) = first at hitem ⊢
  generalize readClassItem f (c :: rest') = first' at hitem ⊢
  cases hitem with
  | @both p rest rest' hrest hext =>
    exact (along_readRangeFrom (extends_skip hext f) p).mono ((skip_suffix f rest).trans hrest)
  | lost hlost =>
    refine .lost fun s after ho => ?_
    obtain ⟨⟨p, rest⟩, hp, hrange⟩ := Option.bind_eq_some_iff.mp ho
    rcases hlost p rest hp with hcut | ⟨⟨holds, rfl⟩, -⟩
    · have hrest := (along_readRangeFrom (extends_append_closing _) p).suffix hrange
      exact hcut.unclosed.suffix (hrest.trans (skip_suffix f rest))
    · cases (readRangeFrom_look f holds _).symm.trans hrange

theorem readClassRange_suffix {c : Char} {s : CharSet}
    (h : readClassRange f (c :: text) = some (s, rest)) : rest <:+ text :=
  (along_readClassRange (extends_append_closing text) c).suffix h

/-! ## The start of a class -/

theorem extends_skipMinus (h : Extends text longer) :
    Extends (openClass.skipMinus f text) (openClass.skipMinus f longer) := by
  induction h with
  | same => exact .same
  | more =>
    have hblank : Unicode.isBlank ')' = false := by decide
    have hclosing : openClass.skipMinus f closing = closing := by
      simp [openClass.skipMinus, closing, hblank]
    rw [hclosing]
    exact .more
  | cons c h ih =>
    simp only [openClass.skipMinus]
    split
    · exact ih
    · exact .cons c h

theorem skipMinus_suffix (f : Flags) (text : List Char) : openClass.skipMinus f text <:+ text := by
  induction text with
  | nil => exact List.suffix_rfl
  | cons c rest ih =>
    rw [openClass.skipMinus]
    split
    · exact ih.trans (List.suffix_cons c rest)
    · exact List.suffix_rfl

/-- What stands for itself at the start of a class. -/
def classStart (f : Flags) (negated : Bool) (text : List Char) : Bool × CharSet × List Char :=
  match text with
  | '-' :: _ => (negated, .single '-', openClass.skipMinus f text)
  | ']' :: rest => (negated, .single ']', f.skip rest)
  | _ => (negated, .empty, text)

/-- Whether a circumflex negates a class, and what follows it and the blanks behind it. -/
def classSign (f : Flags) (text : List Char) : Bool × List Char :=
  match f.skip text with
  | '^' :: rest => (true, f.skip rest)
  | rest => (false, rest)

theorem openClass_eq (f : Flags) (text : List Char) :
    openClass f text = classStart f (classSign f text).1 (classSign f text).2 := rfl

theorem together_classSign (h : Extends text longer) :
    Together text (some (classSign f text)) (some (classSign f longer)) := by
  have hskip := extends_skip h f
  have hsuffix := skip_suffix f text
  unfold classSign
  generalize f.skip text = text at hskip hsuffix ⊢
  generalize f.skip longer = longer at hskip ⊢
  cases hskip with
  | same => exact .both hsuffix .same
  | more => exact .both hsuffix .more
  | @cons c rest rest' h =>
    by_cases hc : c = '^'
    · subst hc
      exact .both ((skip_suffix_cons f _ rest).trans hsuffix) (extends_skip h f)
    · simpa [hc] using Along.both hsuffix (.cons c h)

/-- What has been read of the start of a class, with what is left. -/
def opened (start : Bool × CharSet × List Char) : Option ((Bool × CharSet) × List Char) :=
  some ((start.1, start.2.1), start.2.2)

theorem together_classStart (h : Extends text longer) (negated : Bool) :
    Together text (opened (classStart f negated text)) (opened (classStart f negated longer)) := by
  cases h with
  | same => exact .both List.suffix_rfl .same
  | more => exact .both List.suffix_rfl .more
  | @cons c rest rest' h =>
    by_cases hminus : c = '-'
    · subst hminus
      exact .both (skipMinus_suffix f _) (extends_skipMinus (.cons _ h))
    · by_cases hbracket : c = ']'
      · subst hbracket
        exact .both (skip_suffix_cons f _ rest) (extends_skip h f)
      · have hplain (rest : List Char) :
            classStart f negated (c :: rest) = (negated, .empty, c :: rest) := by
          simp [classStart, hminus, hbracket]
        rw [hplain, hplain]
        exact .both List.suffix_rfl (.cons c h)

theorem together_openClass (h : Extends text longer) :
    Together text (opened (openClass f text)) (opened (openClass f longer)) := by
  have hsign := together_classSign (f := f) h
  rw [openClass_eq, openClass_eq]
  generalize classSign f text = sign at hsign ⊢
  generalize classSign f longer = sign' at hsign ⊢
  cases hsign with
  | @both negated _ _ hrest hext => exact (together_classStart hext negated).mono hrest

theorem openClass_suffix (f : Flags) (text : List Char) : (openClass f text).2.2 <:+ text :=
  (together_openClass (extends_append_closing text)).suffix rfl

/-! ## Classes -/

theorem readAsciiClass_suffix {s : CharSet} {negated : Bool}
    (h : readAsciiClass text = some (s, negated, rest)) : rest <:+ text :=
  (together_readAsciiClass (extends_append_closing text)).suffix (a := (s, negated))
    (by rw [h]; rfl)

theorem readClass_unclosed (h : Unclosed (f.skip text)) (fuel : Nat) (pending : List Pending)
    (listed : CharSet) : readClass f fuel pending listed text = none := by
  induction fuel generalizing text pending listed with
  | zero => rw [readClass]
  | succ fuel ih =>
    have hread {rest : List Char} (hrest : rest <:+ f.skip text) (pending : List Pending)
        (listed : CharSet) : readClass f fuel pending listed rest = none :=
      ih ((h.suffix hrest).suffix (skip_suffix f rest)) pending listed
    have hcombine {op : SetOp} {c d : Char} {rest : List Char}
        (heq : f.skip text = c :: d :: rest) :
        readClass.combine f fuel pending listed op rest = none := by
      rw [readClass.combine]
      exact hread (heq ▸ ⟨[c, d], rfl⟩) _ _
    rw [readClass]
    split
    · rfl
    · next rest heq =>
      have hrest : rest <:+ f.skip text := heq ▸ List.suffix_cons _ rest
      split
      · next hascii =>
        exact Option.bind_eq_none_iff.mpr fun s _ =>
          hread ((readAsciiClass_suffix hascii).trans hrest) _ _
      · exact hread ((openClass_suffix f rest).trans hrest) _ _
    · next rest heq =>
      rw [heq] at h
      exact absurd List.mem_cons_self h
    · next heq => exact hcombine heq
    · next heq => exact hcombine heq
    · next heq => exact hcombine heq
    · generalize f.skip text = text at hread
      cases text with
      | nil => rfl
      | cons c rest =>
        exact Option.bind_eq_none_iff.mpr fun p hp =>
          hread ((readClassRange_suffix hp).trans (List.suffix_cons c rest)) _ _

theorem readClass_open (hskip : f.skip text = '[' :: rest) (fuel : Nat) (pending : List Pending)
    (listed : CharSet) : readClass f (fuel + 1) pending listed text =
      match readAsciiClass rest with
      | some (s, negated, rest) =>
        (finishSet f negated s).bind fun s => readClass f fuel pending (listed.union s) rest
      | none =>
        let start := openClass f rest
        readClass f fuel (.bracket listed start.1 :: pending) start.2.1 start.2.2 := by
  rw [readClass, hskip]
  rfl

theorem readClass_close (hskip : f.skip text = ']' :: rest) (fuel : Nat) (pending : List Pending)
    (listed : CharSet) : readClass f (fuel + 1) pending listed text =
      match closeOperand f listed pending with
      | (s, .bracket outer negated :: pending) =>
        (finishSet f negated s).bind fun s =>
          if pending.isEmpty then some (s, rest)
          else readClass f fuel pending (outer.union s) rest
      | _ => none := by
  rw [readClass, hskip]
  rfl

/-- The combination that a doubled character stands for. -/
def setOp? (c : Char) : Option SetOp :=
  if c = '&' then some .inter
  else if c = '-' then some .diff
  else if c = '~' then some .symmDiff
  else none

theorem setOp?_cases {c : Char} {op : SetOp} (h : setOp? c = some op) :
    (c = '&' ∧ op = .inter) ∨ (c = '-' ∧ op = .diff) ∨ (c = '~' ∧ op = .symmDiff) := by
  unfold setOp? at h
  split at h
  · exact .inl ⟨‹_›, (Option.some.inj h).symm⟩
  · split at h
    · exact .inr (.inl ⟨‹_›, (Option.some.inj h).symm⟩)
    · split at h
      · exact .inr (.inr ⟨‹_›, (Option.some.inj h).symm⟩)
      · cases h

theorem readClass_combine {c : Char} {op : SetOp} (hskip : f.skip text = c :: c :: rest)
    (hop : setOp? c = some op) (fuel : Nat) (pending : List Pending) (listed : CharSet) :
    readClass f (fuel + 1) pending listed text =
      let left := closeOperand f listed pending
      readClass f fuel (.operand op (f.foldSet left.1) :: left.2) .empty rest := by
  rcases setOp?_cases hop with ⟨rfl, rfl⟩ | ⟨rfl, rfl⟩ | ⟨rfl, rfl⟩ <;>
    rw [readClass, hskip] <;> exact readClass.combine.eq_1 ..

theorem readClass_plain {c : Char} (hskip : f.skip text = c :: rest) (hopen : c ≠ '[')
    (hclose : c ≠ ']') (hcombine : rest.head? = some c → setOp? c = none) (fuel : Nat)
    (pending : List Pending) (listed : CharSet) :
    readClass f (fuel + 1) pending listed text =
      (readClassRange f (c :: rest)).bind fun (s, rest) =>
        readClass f fuel pending (listed.union s) rest := by
  rw [readClass, hskip]
  split
  · next heq => cases heq
  · next heq => exact absurd (List.cons.inj heq).1 hopen
  · next heq => exact absurd (List.cons.inj heq).1 hclose
  · next heq =>
    cases heq
    exact absurd (hcombine rfl) (by simp [setOp?])
  · next heq =>
    cases heq
    exact absurd (hcombine rfl) (by simp [setOp?])
  · next heq =>
    cases heq
    exact absurd (hcombine rfl) (by simp [setOp?])
  · rfl

/-- Behind the sign at hand the same is read off both texts. -/
def ReadsOn (f : Flags) (fuel fuel' : Nat) (text rest rest' : List Char) : Prop :=
  ∀ {left left' : List Char}, Extends left left' → left <:+ rest → left' <:+ rest' →
    ∀ (pending : List Pending) (listed : CharSet),
      Together text (readClass f fuel pending listed left) (readClass f fuel' pending listed left')

section Signs

variable {fuel fuel' : Nat} {whole : List Char}

theorem together_open (hread : ReadsOn f fuel fuel' whole rest rest') (hrest : Extends rest rest')
    (hshort : f.skip text = '[' :: rest) (hlong : f.skip longer = '[' :: rest')
    (pending : List Pending) (listed : CharSet) :
    Together whole (readClass f (fuel + 1) pending listed text)
      (readClass f (fuel' + 1) pending listed longer) := by
  have hascii := together_readAsciiClass hrest
  have hclass := together_openClass (f := f) hrest
  rw [readClass_open hshort, readClass_open hlong]
  rcases ho : readAsciiClass rest with _ | ⟨s, negated, left⟩ <;>
    rcases ho' : readAsciiClass rest' with _ | ⟨s', negated', left'⟩ <;>
    rw [ho, ho'] at hascii
  · have hleft := openClass_suffix f rest
    have hleft' := openClass_suffix f rest'
    dsimp only
    generalize openClass f rest = start at hclass hleft
    generalize openClass f rest' = start' at hclass hleft'
    obtain ⟨negated, first, left⟩ := start
    obtain ⟨negated', first', left'⟩ := start'
    cases hclass with
    | both _ hext => exact hread hext hleft hleft' _ _
  · cases hascii with
    | lost hlost => exact (hlost _ _ rfl).elim
  · cases hascii
  · cases hascii with
    | both _ hext =>
      exact .bindOption _ fun s => hread hext (readAsciiClass_suffix ho)
        (readAsciiClass_suffix ho') _ _

theorem together_close (hread : ReadsOn f fuel fuel' whole rest rest') (hrest : Extends rest rest')
    (hshort : f.skip text = ']' :: rest) (hlong : f.skip longer = ']' :: rest')
    (hsub : rest <:+ whole) (pending : List Pending) (listed : CharSet) :
    Together whole (readClass f (fuel + 1) pending listed text)
      (readClass f (fuel' + 1) pending listed longer) := by
  rw [readClass_close hshort, readClass_close hlong]
  split
  · refine .bindOption _ fun s => ?_
    split
    · exact .both hsub hrest
    · exact hread hrest List.suffix_rfl List.suffix_rfl _ _
  · exact .none

theorem together_combine {c : Char} (hread : ReadsOn f fuel fuel' whole rest rest')
    (hrest : Extends rest rest') (hshort : f.skip text = c :: rest)
    (hlong : f.skip longer = c :: rest') (hhead : rest.head? = some c) (hop : (setOp? c).isSome)
    (pending : List Pending) (listed : CharSet) :
    Together whole (readClass f (fuel + 1) pending listed text)
      (readClass f (fuel' + 1) pending listed longer) := by
  obtain ⟨op, hop⟩ := Option.isSome_iff_exists.mp hop
  cases hrest with
  | same => cases hhead
  | more => cases hhead
  | @cons d rest rest' hrest =>
    cases hhead
    rw [readClass_combine hshort hop, readClass_combine hlong hop]
    exact hread hrest (List.suffix_cons c rest) (List.suffix_cons c rest') _ _

theorem together_plain {c : Char} (hread : ReadsOn f fuel fuel' whole rest rest')
    (hrest : Extends rest rest') (hshort : f.skip text = c :: rest)
    (hlong : f.skip longer = c :: rest') (hopen : c ≠ '[') (hclose : c ≠ ']')
    (hplain : rest.head? = some c → setOp? c = none) (pending : List Pending) (listed : CharSet) :
    Together whole (readClass f (fuel + 1) pending listed text)
      (readClass f (fuel' + 1) pending listed longer) := by
  have hplain' : rest'.head? = some c → setOp? c = none := by
    cases hrest with
    | same => exact hplain
    | more =>
      intro h
      cases h
      decide
    | cons d hrest => exact hplain
  rw [readClass_plain hshort hopen hclose hplain, readClass_plain hlong hopen hclose hplain']
  have hrange := along_readClassRange (f := f) hrest c
  rcases ho : readClassRange f (c :: rest) with _ | ⟨s, left⟩ <;>
    rcases ho' : readClassRange f (c :: rest') with _ | ⟨s', left'⟩ <;>
    rw [ho, ho'] at hrange
  · exact .none
  · cases hrange with
    | lost hlost =>
      have hleft := (hlost s' left' rfl).suffix (skip_suffix f left')
      simp only [Option.bind_some, Option.bind_none, readClass_unclosed hleft]
      exact .none
  · cases hrange
  · cases hrange with
    | both hleft hext => exact hread hext hleft (readClassRange_suffix ho') _ _

end Signs

theorem together_readClass (h : Extends text longer) {fuel fuel' : Nat}
    (hfuel : text.length < fuel) (hfuel' : longer.length < fuel') (pending : List Pending)
    (listed : CharSet) : Together text (readClass f fuel pending listed text)
      (readClass f fuel' pending listed longer) := by
  induction fuel generalizing fuel' pending listed text longer with
  | zero => cases hfuel
  | succ fuel ih =>
    obtain _ | fuel' := fuel'
    · cases hfuel'
    have hskip := extends_skip h f
    have hsuffix := skip_suffix f text
    have hlength := hsuffix.length_le
    have hlength' := (skip_suffix f longer).length_le
    generalize hshort : f.skip text = short at hskip hsuffix hlength
    generalize hlong : f.skip longer = long at hskip hlength'
    cases hskip with
    | same =>
      rw [readClass_unclosed (hshort ▸ List.not_mem_nil)]
      rw [readClass_unclosed (hlong ▸ List.not_mem_nil)]
      exact .none
    | more =>
      rw [readClass_unclosed (hshort ▸ List.not_mem_nil)]
      rw [readClass_unclosed (hlong ▸ unclosed_closing)]
      exact .none
    | @cons c rest rest' hrest =>
      rw [List.length_cons] at hlength hlength'
      have hsub := (List.suffix_cons c rest).trans hsuffix
      have hread : ReadsOn f fuel fuel' text rest rest' := by
        intro left left' hext hleft hleft' pending listed
        have := hleft.length_le
        have := hleft'.length_le
        exact (ih hext (by omega) (by omega) pending listed).mono (hleft.trans hsub)
      by_cases hopen : c = '['
      · subst hopen
        exact together_open hread hrest hshort hlong pending listed
      by_cases hclose : c = ']'
      · subst hclose
        exact together_close hread hrest hshort hlong hsub pending listed
      by_cases hhead : rest.head? = some c ∧ (setOp? c).isSome
      · exact together_combine hread hrest hshort hlong hhead.1 hhead.2 pending listed
      · have hplain : rest.head? = some c → setOp? c = none := by simpa using hhead
        exact together_plain hread hrest hshort hlong hopen hclose hplain pending listed

end RecordFix.Regex
