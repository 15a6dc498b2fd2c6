import Mathlib.Data.List.Basic
import RecordFix.Regex.Escape

/-!
# Reading on past the end of an expression

An expression that has to match a whole text is put between anchors, and so what closes its group
follows it in the notation. Whatever is read off the front of the expression is read off the front
of the longer text as well (`Along`), with two exceptions: a comment that is open at the end takes
in what follows, and a sign that is cut off by the end may go on into what follows.
-/

namespace RecordFix.Regex

/-! ## A text and a longer one -/

/-- What follows an expression between anchors. -/
def closing : List Char := [')', '$']

/-- The second text is the first one, or the first one with the closing behind it. -/
inductive Extends : List Char → List Char → Prop
  | same : Extends [] []
  | more : Extends [] closing
  | cons (c : Char) {text longer : List Char} : Extends text longer →
      Extends (c :: text) (c :: longer)

variable {text longer rest rest' : List Char} {f : Flags}

theorem extends_append_closing (text : List Char) : Extends text (text ++ closing) := by
  induction text with
  | nil => exact .more
  | cons c rest ih => exact .cons c ih

theorem skipBlanks_closing : skipBlanks false closing = closing := by decide

@[simp] theorem skip_nil (f : Flags) : f.skip [] = [] := by
  unfold Flags.skip
  split <;> rfl

@[simp] theorem skip_end (f : Flags) : f.skip ['$'] = ['$'] := by
  unfold Flags.skip
  split
  · decide
  · rfl

@[simp] theorem skip_closing (f : Flags) : f.skip closing = closing := by
  unfold Flags.skip
  split
  · exact skipBlanks_closing
  · rfl

theorem extends_skipBlanks (h : Extends text longer) (comment : Bool) :
    Extends (skipBlanks comment text) (skipBlanks comment longer) := by
  induction h generalizing comment with
  | same => exact .same
  | more =>
    cases comment
    · rw [skipBlanks_closing]
      exact .more
    · exact .same
  | cons c h ih =>
    cases comment
    · simp only [skipBlanks]
      split
      · exact ih false
      · split
        · exact ih true
        · exact .cons c h
    · exact ih _

theorem extends_skip (h : Extends text longer) (f : Flags) :
    Extends (f.skip text) (f.skip longer) := by
  unfold Flags.skip
  split
  · exact extends_skipBlanks h false
  · exact h

theorem skipBlanks_suffix (comment : Bool) (text : List Char) :
    skipBlanks comment text <:+ text := by
  induction text generalizing comment with
  | nil => cases comment <;> exact List.suffix_rfl
  | cons c rest ih =>
    have hrest : rest <:+ c :: rest := List.suffix_cons c rest
    cases comment
    · simp only [skipBlanks]
      split
      · exact (ih false).trans hrest
      · split
        · exact (ih true).trans hrest
        · exact List.suffix_rfl
    · exact (ih _).trans hrest

theorem skip_suffix (f : Flags) (text : List Char) : f.skip text <:+ text := by
  unfold Flags.skip
  split
  · exact skipBlanks_suffix false text
  · exact List.suffix_rfl

theorem skip_suffix_cons (f : Flags) (c : Char) (rest : List Char) : f.skip rest <:+ c :: rest :=
  (skip_suffix f rest).trans (List.suffix_cons c rest)

theorem extends_dropWhile (h : Extends text longer) {p : Char → Bool} (hp : p ')' = false) :
    Extends (text.dropWhile p) (longer.dropWhile p) := by
  induction h with
  | same => exact .same
  | more =>
    rw [closing, List.dropWhile_cons_of_neg (by simp [hp])]
    exact .more
  | cons c h ih =>
    simp only [List.dropWhile_cons]
    split
    · exact ih
    · exact .cons c h

/-- Up to a character that the closing does not hold the texts are the same; there is none in the
longer text if there is none in the shorter one. -/
theorem extends_span (h : Extends text longer) {p : Char → Bool} (hp : closing.all p) :
    (text.dropWhile p = [] ∧ longer.dropWhile p = []) ∨
      longer.takeWhile p = text.takeWhile p ∧ ∃ c rest rest', Extends rest rest' ∧
        text.dropWhile p = c :: rest ∧ longer.dropWhile p = c :: rest' := by
  induction h with
  | same => exact .inl ⟨rfl, rfl⟩
  | more =>
    obtain ⟨hparen, hend⟩ : p ')' = true ∧ p '$' = true := by simpa [closing] using hp
    exact .inl ⟨rfl, by simp [closing, hparen, hend]⟩
  | @cons c text longer h ih =>
    simp only [List.dropWhile_cons, List.takeWhile_cons]
    split
    · rcases ih with hnil | ⟨htake, hdrop⟩
      · exact .inl hnil
      · exact .inr ⟨congrArg (c :: ·) htake, hdrop⟩
    · exact .inr ⟨rfl, c, text, longer, h, rfl, rfl⟩

/-! ## Reading off the front -/

/-- What is read off a text and off the longer one: the same, or nothing off the shorter one. What
may then be read off the longer one is said by `lost`. -/
inductive Along {α : Type} (lost : α → List Char → Prop) (text : List Char) :
    Option (α × List Char) → Option (α × List Char) → Prop
  | both {a : α} {rest rest' : List Char} : rest <:+ text → Extends rest rest' →
      Along lost text (some (a, rest)) (some (a, rest'))
  | lost {o : Option (α × List Char)} : (∀ a rest, o = some (a, rest) → lost a rest) →
      Along lost text none o

/-- The same is read off both texts. -/
abbrev Together {α : Type} (text : List Char) :
    Option (α × List Char) → Option (α × List Char) → Prop :=
  Along (fun _ _ => False) text

namespace Along

variable {α β : Type} {lost : α → List Char → Prop} {o o' : Option (α × List Char)}

theorem none : Along lost text none none := .lost nofun

theorem mono (h : Along lost rest o o') (hsuffix : rest <:+ text) : Along lost text o o' := by
  cases h with
  | both hrest hext => exact .both (hrest.trans hsuffix) hext
  | lost h => exact .lost h

theorem weaken {lost' : α → List Char → Prop} (h : Along lost text o o')
    (hlost : ∀ a rest, lost a rest → lost' a rest) : Along lost' text o o' := by
  cases h with
  | both hrest hext => exact .both hrest hext
  | lost h => exact .lost fun a rest ho => hlost a rest (h a rest ho)

/-- What is left of the shorter text is an end of it. -/
theorem suffix {a : α} (h : Along lost text o o') (ho : o = some (a, rest)) : rest <:+ text := by
  cases h with
  | both hrest _ =>
    cases ho
    exact hrest
  | lost => cases ho

theorem map {lost' : β → List Char → Prop} {g : α → β} (h : Along lost text o o')
    (hlost : ∀ a rest, lost a rest → lost' (g a) rest) :
    Along lost' text (o.map fun p => (g p.1, p.2)) (o'.map fun p => (g p.1, p.2)) := by
  cases h with
  | both hrest hext => exact .both hrest hext
  | lost h =>
    refine .lost fun b rest ho => ?_
    obtain ⟨⟨a, rest⟩, ha, heq⟩ := Option.map_eq_some_iff.mp ho
    cases heq
    exact hlost a rest (h a rest ha)

/-- Reading on where the same has been read. -/
theorem bind {lost' : β → List Char → Prop} {g : α × List Char → Option (β × List Char)}
    (h : Together text o o') (hboth : ∀ a rest rest', rest <:+ text → Extends rest rest' →
      Along lost' rest (g (a, rest)) (g (a, rest'))) :
    Along lost' text (o.bind g) (o'.bind g) := by
  cases h with
  | @both a rest rest' hrest hext => exact (hboth a rest rest' hrest hext).mono hrest
  | lost h =>
    obtain _ | ⟨a, rest⟩ := o'
    · exact .none
    · exact (h a rest rfl).elim

/-- What is read does not depend on the text. -/
theorem bindOption {γ : Type} (read : Option γ) {g g' : γ → Option (α × List Char)}
    (h : ∀ c, Along lost text (g c) (g' c)) : Along lost text (read.bind g) (read.bind g') := by
  cases read with
  | none => exact .none
  | some c => exact h c

theorem mapOption {γ : Type} (read : Option γ) (g : γ → α) (hrest : rest <:+ text)
    (hext : Extends rest rest') :
    Along lost text (read.map fun c => (g c, rest)) (read.map fun c => (g c, rest')) := by
  cases read with
  | none => exact .none
  | some c => exact .both hrest hext

end Along

/-! ## Characters by their numbers -/

theorem together_hexFixed (h : Extends text longer) (count value : Nat) :
    Together text (hexFixed f count value text) (hexFixed f count value longer) := by
  induction count generalizing value text longer with
  | zero => exact .both List.suffix_rfl h
  | succ count ih =>
    cases h with
    | same => exact .none
    | more => exact .none
    | cons c h =>
      refine .bindOption _ fun d => ?_
      exact (ih (extends_skip h f) _).mono (skip_suffix_cons f c _)

theorem together_hexBraced (h : Extends text longer) {fuel fuel' : Nat}
    (hfuel : text.length < fuel) (hfuel' : longer.length < fuel') (value : Nat) (begun : Bool) :
    Together text (hexBraced f fuel value begun text) (hexBraced f fuel' value begun longer) := by
  induction fuel generalizing fuel' value begun text longer with
  | zero => cases hfuel
  | succ fuel ih =>
    obtain _ | fuel' := fuel'
    · cases hfuel'
    cases h with
    | same => exact .none
    | more => exact .none
    | @cons c rest rest' h =>
      have hlength := (skip_suffix f rest).length_le
      have hlength' := (skip_suffix f rest').length_le
      rw [List.length_cons] at hfuel hfuel'
      rw [hexBraced, hexBraced]
      split
      · split
        · exact .both (skip_suffix_cons f c rest) (extends_skip h f)
        · exact .none
      · refine .bindOption _ fun d => ?_
        refine (ih (extends_skip h f) ?_ ?_ _ _).mono (skip_suffix_cons f c rest)
        · omega
        · omega

theorem together_readHex (h : Extends text longer) (digits : Nat) :
    Together text (readHex f digits text) (readHex f digits longer) := by
  have hskip := extends_skip h f
  have hsuffix := skip_suffix f text
  unfold readHex
  generalize f.skip text = text at hskip hsuffix
  generalize f.skip longer = longer at hskip
  have hfixed : Together text
      ((hexFixed f digits 0 text).bind fun read =>
        (scalar? read.1).map fun c => (Primitive.literal c (digits == 2), read.2))
      ((hexFixed f digits 0 longer).bind fun read =>
        (scalar? read.1).map fun c => (Primitive.literal c (digits == 2), read.2)) :=
    .bind (together_hexFixed hskip digits 0) fun value _ _ _ hext =>
      .mapOption _ _ List.suffix_rfl hext
  refine Along.mono ?_ hsuffix
  cases hskip with
  | same => exact hfixed
  | more => exact hfixed
  | @cons c rest rest' h =>
    by_cases hc : c = '\x7b'
    · subst hc
      refine (Along.bind (together_hexBraced (extends_skip h f) ?_ ?_ 0 false)
        fun value _ _ _ hext => .mapOption _ _ List.suffix_rfl hext).mono
          (skip_suffix_cons f _ rest)
      · exact Nat.lt_succ_of_le (skip_suffix f rest).length_le
      · exact Nat.lt_succ_of_le (skip_suffix f rest').length_le
    · split
      · next heq => exact absurd (List.cons.inj heq).1 hc
      · split
        · next heq => exact absurd (List.cons.inj heq).1 hc
        · exact hfixed

/-! ## Properties -/

theorem braced_closing (f : Flags) (fuel : Nat) (seen : List Char) :
    braced f fuel seen closing = none := by
  rcases fuel with _ | _ | _ | fuel <;> simp [braced, closing]

theorem together_braced (h : Extends text longer) {fuel fuel' : Nat} (hfuel : text.length < fuel)
    (hfuel' : longer.length < fuel') (seen : List Char) :
    Together text (braced f fuel seen text) (braced f fuel' seen longer) := by
  induction fuel generalizing fuel' seen text longer with
  | zero => cases hfuel
  | succ fuel ih =>
    obtain _ | fuel' := fuel'
    · cases hfuel'
    cases h with
    | same => exact .none
    | more =>
      rw [braced_closing]
      exact .none
    | @cons c rest rest' h =>
      have hlength := (skip_suffix f rest).length_le
      have hlength' := (skip_suffix f rest').length_le
      rw [List.length_cons] at hfuel hfuel'
      rw [braced, braced]
      split
      · exact .both (List.suffix_cons c rest) h
      · refine (ih (extends_skip h f) ?_ ?_ _).mono (skip_suffix_cons f c rest)
        · omega
        · omega

/-- What is left of a closing that has been begun to be read. -/
def Cut (rest : List Char) : Prop := rest <:+ ['$']

theorem along_readProperty (h : Extends text longer) (negated : Bool) :
    Along (fun _ rest => Cut rest) text (readProperty f negated text)
      (readProperty f negated longer) := by
  have hskip := extends_skip h f
  have hsuffix := skip_suffix f text
  unfold readProperty
  generalize f.skip text = text at hskip hsuffix
  generalize f.skip longer = longer at hskip
  refine Along.mono ?_ hsuffix
  cases hskip with
  | same => exact .none
  | more =>
    refine .lost fun p rest ho => ?_
    simp only [closing] at ho
    split at ho
    · cases ho
    · next heq => cases heq
    · next heq =>
      cases heq
      split at ho
      · cases ho
      · obtain ⟨holds, -, heq⟩ := Option.map_eq_some_iff.mp ho
        cases heq
        exact skip_suffix f ['$']
  | @cons c rest rest' h =>
    by_cases hc : c = '\x7b'
    · subst hc
      refine (Along.bind (together_braced (extends_skip h f) ?_ ?_ [])
        fun body _ _ _ hext => .mapOption _ _ List.suffix_rfl hext).mono (skip_suffix_cons f _ rest)
      · exact Nat.lt_succ_of_le (skip_suffix f rest).length_le
      · exact Nat.lt_succ_of_le (skip_suffix f rest').length_le
    · simp only
      split
      · exact .none
      · exact .mapOption _ _ (skip_suffix_cons f c rest) (extends_skip h f)

/-! ## Conditions -/

/-- The characters that pass a test, with the blanks between them skipped. -/
def takeSkipping (f : Flags) (p : Char → Bool) : Nat → List Char → List Char →
    List Char × List Char
  | 0, seen, text => (seen.reverse, text)
  | _ + 1, seen, [] => (seen.reverse, [])
  | fuel + 1, seen, c :: rest =>
    if p c then takeSkipping f p fuel (c :: seen) (f.skip rest) else (seen.reverse, c :: rest)

theorem boundaryName_eq (f : Flags) (fuel : Nat) (seen text : List Char) :
    boundaryName f fuel seen text = takeSkipping f isBoundaryLetter fuel seen text := by
  induction fuel generalizing seen text with
  | zero => rfl
  | succ fuel ih =>
    cases text with
    | nil => rfl
    | cons c rest => rw [boundaryName, takeSkipping, ih]

theorem takeSkipping_nil (p : Char → Bool) (fuel : Nat) (seen : List Char) :
    takeSkipping f p fuel seen [] = (seen.reverse, []) := by
  cases fuel <;> rfl

theorem takeSkipping_closing {p : Char → Bool} (hp : p ')' = false) (fuel : Nat)
    (seen : List Char) : takeSkipping f p fuel seen closing = (seen.reverse, closing) := by
  cases fuel with
  | zero => rfl
  | succ fuel => rw [closing, takeSkipping, hp, if_neg Bool.false_ne_true]

theorem together_takeSkipping {p : Char → Bool} (hp : p ')' = false) (h : Extends text longer)
    {fuel fuel' : Nat} (hfuel : text.length ≤ fuel) (hfuel' : longer.length ≤ fuel')
    (seen : List Char) :
    Together text (some (takeSkipping f p fuel seen text))
      (some (takeSkipping f p fuel' seen longer)) := by
  have hend {longer : List Char} (h : Extends [] longer) (fuel fuel' : Nat) (seen : List Char) :
      Together [] (some (takeSkipping f p fuel seen []))
        (some (takeSkipping f p fuel' seen longer)) := by
    rw [takeSkipping_nil]
    cases h with
    | same =>
      rw [takeSkipping_nil]
      exact .both List.suffix_rfl .same
    | more =>
      rw [takeSkipping_closing hp]
      exact .both List.suffix_rfl .more
  induction fuel generalizing fuel' seen text longer with
  | zero =>
    obtain rfl := List.eq_nil_of_length_eq_zero (Nat.le_zero.mp hfuel)
    exact hend h _ _ _
  | succ fuel ih =>
    cases h with
    | same => exact hend .same _ _ _
    | more => exact hend .more _ _ _
    | @cons c rest rest' h =>
      obtain _ | fuel' := fuel'
      · cases hfuel'
      have hlength := (skip_suffix f rest).length_le
      have hlength' := (skip_suffix f rest').length_le
      rw [List.length_cons] at hfuel hfuel'
      rw [takeSkipping, takeSkipping]
      split
      · refine (ih (extends_skip h f) ?_ ?_ _).mono (skip_suffix_cons f c rest)
        · omega
        · omega
      · exact .both List.suffix_rfl (.cons c h)

theorem along_readBoundary (h : Extends text longer) :
    Along (fun p rest => (∃ holds, p = .look holds) ∧
        ∃ after, rest = '\x7b' :: after ∧ f.skip after = closing)
      text (readBoundary f text) (readBoundary f longer) := by
  cases h with
  | same => exact .both List.suffix_rfl .same
  | more => exact .both List.suffix_rfl .more
  | @cons c rest rest' h =>
    by_cases hc : c = '\x7b'
    · subst hc
      have hskip := extends_skip h f
      have hsuffix := skip_suffix_cons f '\x7b' rest
      simp only [readBoundary]
      generalize f.skip rest = text at hskip hsuffix
      generalize hafter : f.skip rest' = longer at hskip
      cases hskip with
      | same => exact .none
      | more =>
        refine .lost fun p after ho => ?_
        cases ho
        exact ⟨⟨_, rfl⟩, rest', rfl, hafter⟩
      | @cons d body body' hbody =>
        simp only
        split
        · exact .both List.suffix_rfl (.cons _ h)
        · have hletter : isBoundaryLetter ')' = false := by decide
          have hname := together_takeSkipping (f := f) hletter (.cons d hbody)
            (Nat.le_refl (body.length + 1)) (Nat.le_refl (body'.length + 1)) []
          rw [← boundaryName_eq, ← boundaryName_eq] at hname
          refine Along.mono ?_ hsuffix
          generalize boundaryName f (body.length + 1) [] (d :: body) = named at hname
          generalize boundaryName f (body'.length + 1) [] (d :: body') = named' at hname
          cases hname with
          | @both name left left' hleft hext =>
            cases hext with
            | same => exact .none
            | more => exact .none
            | @cons e left left' hext =>
              by_cases he : e = '\x7d'
              · subst he
                exact .mapOption _ _ ((List.suffix_cons _ left).trans hleft) hext
              · split
                · next heq => exact absurd (List.cons.inj (Prod.mk.inj heq).2).1 he
                · split
                  · next heq => exact absurd (List.cons.inj (Prod.mk.inj heq).2).1 he
                  · exact .none
    · have hplain (rest : List Char) :
          readBoundary f (c :: rest) = some (.look (Look.wordBoundary f.unicode), c :: rest) := by
        unfold readBoundary
        split
        · next heq => exact absurd (List.cons.inj heq).1 hc
        · rfl
      rw [hplain, hplain]
      exact .both List.suffix_rfl (.cons c h)

/-! ## Escapes -/

/-- What is lost when a backslash is cut off: a sign that ends in the closing, or a brace after a
condition that turns out not to belong to it. -/
def LostEscape (f : Flags) (p : Primitive) (rest : List Char) : Prop :=
  Cut rest ∨ (∃ holds, p = .look holds) ∧ ∃ after, rest = '\x7b' :: after ∧ f.skip after = closing

theorem along_readEscape (h : Extends text longer) :
    Along (LostEscape f) text (readEscape f text) (readEscape f longer) := by
  cases h with
  | same => exact .none
  | more =>
    refine .lost fun p rest ho => .inl ?_
    have hread : readEscape f closing = some (.literal ')' false, ['$']) := rfl
    cases hread.symm.trans ho
    exact List.suffix_rfl
  | @cons c rest rest' h =>
    refine Along.mono ?_ (List.suffix_cons c rest)
    unfold readEscape
    dsimp only
    split
    · exact (together_readHex h 2).weaken nofun
    · exact (together_readHex h 4).weaken nofun
    · exact (together_readHex h 8).weaken nofun
    · exact (along_readProperty h false).weaken fun _ _ => .inl
    · exact (along_readProperty h true).weaken fun _ _ => .inl
    -- the other letters read nothing on, but for a boundary with a name
    all_goals first
      | exact .both List.suffix_rfl h
      | exact .mapOption _ _ List.suffix_rfl h
      | exact (along_readBoundary h).weaken fun _ _ => .inr
      | split
    · exact .both List.suffix_rfl h
    · exact .none

end RecordFix.Regex
