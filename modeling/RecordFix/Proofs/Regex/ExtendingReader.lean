import RecordFix.Proofs.Regex.ExtendingBracket
import RecordFix.Regex.Parser

/-!
# Reading signs on past the end of an expression

What the reader makes of one sign of an expression does not change when the closing of a group comes
behind the expression (`Reader.along_step`). Only a sign that the end cuts off may be read there; it
ends in the closing then, and no group is opened or closed by it (`Reader.LostSign`).
-/

namespace RecordFix.Regex

variable {text longer rest rest' : List Char} {f : Flags}

/-! ## Groups -/

theorem along_readFlags (h : Extends text longer) (seen : List Char) :
    Along (fun _ rest => rest = closing) text (readFlags f seen text)
      (readFlags f seen longer) := by
  induction h generalizing f seen with
  | same => exact .none
  | more =>
    refine .lost fun g rest ho => ?_
    simp only [closing, readFlags] at ho
    split at ho
    · split at ho
      · cases ho
      · cases ho
        rfl
    · next hc => exact absurd (by decide) hc
  | @cons c rest rest' h ih =>
    rw [readFlags, readFlags]
    split
    · split
      · exact .none
      · exact .both List.suffix_rfl (.cons c h)
    · split
      · exact .none
      · split
        · exact (ih _).mono (List.suffix_cons c rest)
        · exact .bindOption _ fun g => (ih _).mono (List.suffix_cons c rest)

theorem readFlags_ne_nil {seen : List Char} {g : Flags}
    (h : readFlags f seen text = some (g, rest)) : rest ≠ [] := by
  induction text generalizing f seen with
  | nil => cases h
  | cons c more ih =>
    rw [readFlags] at h
    split at h
    · split at h
      · cases h
      · cases h
        exact List.cons_ne_nil c more
    · split at h
      · cases h
      · split at h
        · exact ih h
        · obtain ⟨g, -, h⟩ := Option.bind_eq_some_iff.mp h
          exact ih h

namespace Reader

variable {r : Reader}

theorem together_groupName (h : Extends text longer) :
    Together text (groupName text) (groupName longer) := by
  have hsuffix := List.dropWhile_suffix (· != '>') (l := text)
  unfold groupName
  dsimp only
  rcases extends_span h (p := (· != '>')) rfl with
    ⟨hdrop, hdrop'⟩ | ⟨htake, c, rest, rest', hext, hdrop, hdrop'⟩
  · rw [hdrop, hdrop']
    generalize text.takeWhile (· != '>') = name
    generalize longer.takeWhile (· != '>') = name'
    cases name <;> cases name' <;> exact .none
  · rw [hdrop, hdrop', htake]
    rw [hdrop] at hsuffix
    generalize text.takeWhile (· != '>') = name
    by_cases hc : c = '>'
    · subst hc
      cases name with
      | nil => exact .none
      | cons d more =>
        simp only
        split
        · exact .both ((List.suffix_cons _ rest).trans hsuffix) hext
        · exact .none
    · cases name with
      | nil => exact .none
      | cons d more =>
        simp only [List.cons.injEq, hc, false_and, imp_self, implies_true]
        exact .none

theorem together_openNamed (h : Extends text longer) :
    Together text (r.openNamed text) (r.openNamed longer) := by
  refine .bind (together_groupName h) fun name rest rest' _ hext => ?_
  dsimp only
  split
  · exact .none
  · exact .both List.suffix_rfl hext

/-- What is lost when a sign is cut off: the sign ends in the closing, and no group is opened or
closed; or a brace follows that starts no repetition. -/
def LostSign (r r' : Reader) (rest : List Char) : Prop :=
  r'.groups = r.groups ∧
    (Cut rest ∨ ∃ after, rest = '\x7b' :: after ∧ r'.flags.skip after = closing)

/-- A group without a number, or a change of flags. -/
def groupFlags (r : Reader) (text : List Char) : Option (Reader × List Char) :=
  match readFlags r.flags [] text with
  | some (flags, ':' :: after) => some (r.openGroup flags none, after)
  | some (flags, _ :: after) =>
    if text.head? == some ')' then none
    else some ({ r with flags := flags, elements := .flags :: r.elements }, after)
  | _ => none

theorem along_groupFlags (h : Extends text longer) :
    Along (LostSign r) text (r.groupFlags text) (r.groupFlags longer) := by
  have hflags := along_readFlags (f := r.flags) h []
  unfold groupFlags
  rcases ho : readFlags r.flags [] text with _ | ⟨flags, rest⟩ <;>
    rcases ho' : readFlags r.flags [] longer with _ | ⟨flags', rest'⟩ <;>
    rw [ho, ho'] at hflags
  · exact .none
  · cases hflags with
    | lost hlost =>
      obtain rfl := hlost _ _ rfl
      refine .lost fun r' rest hr => ?_
      simp only [closing] at hr
      split at hr
      · next heq => cases heq
      · next heq =>
        cases heq
        split at hr
        · cases hr
        · cases hr
          exact ⟨rfl, .inl List.suffix_rfl⟩
      · cases hr
  · cases hflags
  · cases hflags with
    | both hrest hext =>
      have hhead : longer.head? = text.head? := by
        cases h with
        | same => rfl
        | more => cases ho
        | cons c h => rfl
      rw [hhead]
      cases hext with
      | same => exact absurd rfl (readFlags_ne_nil ho)
      | more => exact absurd rfl (readFlags_ne_nil ho)
      | @cons c rest rest' hext =>
        have hsuffix := (List.suffix_cons c rest).trans hrest
        by_cases hc : c = ':'
        · subst hc
          exact .both hsuffix hext
        · simp only [beq_iff_eq]
          split
          · exact .none
          · exact .both hsuffix hext

/-- What a question mark after an opening parenthesis starts. -/
def groupKind (r : Reader) (text : List Char) : Option (Reader × List Char) :=
  match text with
  | '=' :: _ | '!' :: _ | '<' :: '=' :: _ | '<' :: '!' :: _ => none
  | 'P' :: '<' :: rest => r.openNamed rest
  | '<' :: rest => r.openNamed rest
  | rest => r.groupFlags rest

theorem group_eq (r : Reader) (text : List Char) : r.group text =
    match r.flags.skip text with
    | '?' :: rest => r.groupKind rest
    | rest => some (r.openNumbered none, rest) := by
  unfold group
  split
  case h_7 rest _ _ _ _ _ _ heq =>
    have hkind : r.groupKind rest = r.groupFlags rest := by simp_all [groupKind]
    rw [heq]
    exact hkind.symm
  case h_8 heq =>
    simp_all
  all_goals
    rename_i heq
    simp_all [groupKind]

theorem groupKind_plain {c : Char} (hlook : c ≠ '=' ∧ c ≠ '!') (hname : c ≠ '<')
    (hnamed : c = 'P' → rest.head? ≠ some '<') :
    r.groupKind (c :: rest) = r.groupFlags (c :: rest) := by
  unfold groupKind
  split <;> simp_all

theorem groupKind_angle (h : rest.head? ≠ some '=' ∧ rest.head? ≠ some '!') :
    r.groupKind ('<' :: rest) = r.openNamed rest := by
  unfold groupKind
  split <;> simp_all

theorem along_groupKind (h : Extends text longer) :
    Along (LostSign r) text (r.groupKind text) (r.groupKind longer) := by
  cases h with
  | same => exact along_groupFlags .same
  | more => exact along_groupFlags .more
  | @cons c rest rest' h =>
    have hhead {d : Char} (hd : d ≠ ')') : rest'.head? = some d → rest.head? = some d := by
      cases h with
      | same => exact id
      | more => exact fun heq => absurd (Option.some.inj heq).symm hd
      | cons c h => exact id
    by_cases hlook : c = '=' ∨ c = '!'
    · rcases hlook with rfl | rfl <;> exact .none
    by_cases hname : c = '<'
    · subst hname
      by_cases hlook : rest.head? = some '=' ∨ rest.head? = some '!'
      · cases h with
        | same => rcases hlook with hlook | hlook <;> cases hlook
        | more => rcases hlook with hlook | hlook <;> cases hlook
        | cons d h => rcases hlook with hlook | hlook <;> cases hlook <;> exact .none
      · obtain ⟨hequal, hbang⟩ := not_or.mp hlook
        rw [groupKind_angle ⟨hequal, hbang⟩,
          groupKind_angle ⟨mt (hhead (by decide)) hequal, mt (hhead (by decide)) hbang⟩]
        exact ((together_openNamed h).weaken nofun).mono (List.suffix_cons _ rest)
    by_cases hnamed : c = 'P' ∧ rest.head? = some '<'
    · obtain ⟨rfl, hangle⟩ := hnamed
      cases h with
      | same => cases hangle
      | more => cases hangle
      | @cons d rest rest' h =>
        cases hangle
        exact ((together_openNamed h).weaken nofun).mono ⟨['P', '<'], rfl⟩
    · rw [groupKind_plain (not_or.mp hlook) hname fun hc hrest => hnamed ⟨hc, hrest⟩,
        groupKind_plain (not_or.mp hlook) hname fun hc hrest =>
          hnamed ⟨hc, hhead (by decide) hrest⟩]
      exact along_groupFlags (.cons c h)

theorem along_group (h : Extends text longer) :
    Along (LostSign r) text (r.group text) (r.group longer) := by
  have hskip := extends_skip h r.flags
  have hsuffix := skip_suffix r.flags text
  rw [group_eq, group_eq]
  generalize r.flags.skip text = text at hskip hsuffix ⊢
  generalize r.flags.skip longer = longer at hskip ⊢
  refine Along.mono ?_ hsuffix
  cases hskip with
  | same => exact .both List.suffix_rfl .same
  | more => exact .both List.suffix_rfl .more
  | @cons c rest rest' h =>
    by_cases hc : c = '?'
    · subst hc
      exact (along_groupKind h).mono (List.suffix_cons _ rest)
    · simpa [hc] using Along.both List.suffix_rfl (.cons c h)

/-! ## Repetitions -/

theorem countDigits_eq (f : Flags) (fuel : Nat) (seen text : List Char) :
    countDigits f fuel seen text = takeSkipping f Char.isDigit fuel seen text := by
  induction fuel generalizing seen text with
  | zero => rfl
  | succ fuel ih =>
    cases text with
    | nil => rfl
    | cons c rest => rw [countDigits, takeSkipping, ih]

theorem together_count (h : Extends text longer) :
    Together text (count f text) (count f longer) := by
  have hdrop := extends_dropWhile h (p := Unicode.isBlank) (by decide)
  have hsuffix := List.dropWhile_suffix Unicode.isBlank (l := text)
  unfold count
  generalize text.dropWhile Unicode.isBlank = text at hdrop hsuffix ⊢
  generalize longer.dropWhile Unicode.isBlank = longer at hdrop ⊢
  have hdigit : Char.isDigit ')' = false := by decide
  have hdigits := together_takeSkipping (f := f) hdigit hdrop (Nat.le_refl _) (Nat.le_refl _) []
  rw [← countDigits_eq, ← countDigits_eq] at hdigits
  refine Along.mono ?_ hsuffix
  dsimp only
  generalize countDigits f text.length [] text = read at hdigits ⊢
  generalize countDigits f longer.length [] longer = read' at hdigits ⊢
  cases hdigits with
  | @both digits rest rest' hrest hext =>
    refine .mapOption _ _ ?_ ?_
    · exact (skip_suffix f _).trans ((List.dropWhile_suffix _).trans hrest)
    · exact extends_skip (extends_dropWhile hext (by decide)) f

theorem together_repetition (h : Extends text longer) (least : Nat) (most : Option Nat) :
    Together text (r.repetition least most text) (r.repetition least most longer) := by
  cases h with
  | same => exact .mapOption _ id List.suffix_rfl .same
  | more => exact .mapOption _ id List.suffix_rfl .more
  | @cons c rest rest' h =>
    by_cases hc : c = '?'
    · subst hc
      exact .mapOption _ id (List.suffix_cons _ rest) h
    · simpa [repetition, hc] using Along.mapOption _ id List.suffix_rfl (.cons c h)

/-- The most that a repetition with counts allows, after the least; the brace is left. -/
def most? (f : Flags) (least : Nat) (text : List Char) : Option (Option Nat × List Char) :=
  match text with
  | ',' :: rest =>
    match f.skip rest with
    | '\x7d' :: rest => some (none, '\x7d' :: rest)
    | rest => (count f rest).map fun (most, rest) => (some most, rest)
  | rest => some (some least, rest)

theorem together_most? (h : Extends text longer) (least : Nat) :
    Together text (most? f least text) (most? f least longer) := by
  cases h with
  | same => exact .both List.suffix_rfl .same
  | more => exact .both List.suffix_rfl .more
  | @cons c rest rest' h =>
    by_cases hc : c = ','
    · subst hc
      have hskip := extends_skip h f
      have hsuffix := skip_suffix_cons f ',' rest
      simp only [most?]
      generalize f.skip rest = text at hskip hsuffix ⊢
      generalize f.skip rest' = longer at hskip ⊢
      refine Along.mono ?_ hsuffix
      have hcount : Together text ((count f text).map fun (most, rest) => (some most, rest))
          ((count f longer).map fun (most, rest) => (some most, rest)) :=
        (together_count hskip).map nofun
      cases hskip with
      | same => exact hcount
      | more => exact hcount
      | @cons d rest rest' h =>
        by_cases hd : d = '\x7d'
        · subst hd
          exact .both List.suffix_rfl (.cons _ h)
        · simpa [hd] using hcount
    · simpa [most?, hc] using Along.both List.suffix_rfl (.cons c h)

theorem counted_eq (r : Reader) (text : List Char) : r.counted text =
    (count r.flags (r.flags.skip text)).bind fun (least, rest) =>
      (most? r.flags least rest).bind fun (most, rest) =>
        match rest with
        | '\x7d' :: rest =>
          if most.any (· < least) then none
          else r.repetition least most (r.flags.skip rest)
        | _ => none := rfl

theorem together_counted (h : Extends text longer) :
    Together text (r.counted text) (r.counted longer) := by
  refine Along.mono ?_ (skip_suffix r.flags text)
  rw [counted_eq, counted_eq]
  refine .bind (together_count (extends_skip h r.flags)) fun least rest rest' _ hext => ?_
  refine .bind (together_most? hext least) fun most rest rest' _ hext => ?_
  cases hext with
  | same => exact .none
  | more => exact .none
  | @cons c rest rest' h =>
    by_cases hc : c = '\x7d'
    · subst hc
      simp only
      split
      · exact .none
      · exact (together_repetition (extends_skip h _) _ _).mono (skip_suffix_cons _ _ rest)
    · simpa [hc] using Along.none

/-! ## Signs -/

theorem together_bracket (h : Extends text longer) :
    Together text (r.bracket text) (r.bracket longer) := by
  have hopen := together_openClass (f := r.flags) h
  unfold bracket
  dsimp only
  generalize openClass r.flags text = start at hopen ⊢
  generalize openClass r.flags longer = start' at hopen ⊢
  obtain ⟨negated, first, rest⟩ := start
  obtain ⟨negated', first', rest'⟩ := start'
  cases hopen with
  | both hrest hext =>
    have hclass := together_readClass (f := r.flags) hext (Nat.lt_succ_self _) (Nat.lt_succ_self _)
      [.bracket .empty negated] first
    exact (hclass.map (g := fun s => r.addSet s 1) nofun).mono hrest

/-- Adds what a backslash has been read to stand for. -/
def addPrimitive (r : Reader) : Primitive → Option Reader
  | .look holds => some (r.add ⟨.look holds, 0⟩)
  | p => (p.set? r.flags).map fun s => r.addSet s 0

theorem escape_eq (r : Reader) (text : List Char) : r.escape text =
    (readEscape r.flags text).bind fun (p, rest) => (r.addPrimitive p).map fun r => (r, rest) := by
  unfold escape
  congr 1
  funext ⟨p, rest⟩
  cases p <;> simp [addPrimitive] <;> rfl

theorem groups_addPrimitive {r r' : Reader} {p : Primitive} (h : r.addPrimitive p = some r') :
    r'.groups = r.groups := by
  cases p with
  | look holds =>
    cases h
    rfl
  | _ =>
    simp only [addPrimitive, Option.map_eq_some_iff] at h
    obtain ⟨s, -, rfl⟩ := h
    rfl

theorem along_escape (h : Extends text longer) :
    Along (LostSign r) text (r.escape text) (r.escape longer) := by
  have hescape := along_readEscape (f := r.flags) h
  rw [escape_eq, escape_eq]
  generalize readEscape r.flags text = read at hescape ⊢
  generalize readEscape r.flags longer = read' at hescape ⊢
  cases hescape with
  | both hrest hext => exact .mapOption _ id hrest hext
  | lost hlost =>
    refine .lost fun r' rest ho => ?_
    obtain ⟨⟨p, rest⟩, hp, ho⟩ := Option.bind_eq_some_iff.mp ho
    obtain ⟨r', hr', heq⟩ := Option.map_eq_some_iff.mp ho
    cases heq
    refine ⟨groups_addPrimitive hr', ?_⟩
    rcases hlost p rest hp with hcut | ⟨⟨holds, rfl⟩, after, rfl, hafter⟩
    · exact .inl hcut
    · cases hr'
      exact .inr ⟨after, rfl, hafter⟩

/-- What one sign does before the longer text is what it does before the shorter one. -/
theorem along_step (h : Extends rest rest') (c : Char) :
    Along (LostSign r) rest (r.step c rest) (r.step c rest') := by
  unfold step
  split
  · exact along_group h
  · exact .mapOption _ id List.suffix_rfl h
  · exact .both List.suffix_rfl h
  · exact (together_bracket h).weaken nofun
  · exact (together_repetition h _ _).weaken nofun
  · exact (together_repetition h _ _).weaken nofun
  · exact (together_repetition h _ _).weaken nofun
  · exact (together_counted h).weaken nofun
  · exact along_escape h
  · exact .mapOption _ _ List.suffix_rfl h
  · exact .both List.suffix_rfl h
  · exact .both List.suffix_rfl h
  · exact .both List.suffix_rfl h

end Reader

end RecordFix.Regex
