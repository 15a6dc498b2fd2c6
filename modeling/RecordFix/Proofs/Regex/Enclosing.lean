import RecordFix.Proofs.Regex.ExtendingReader
import RecordFix.Proofs.Regex.Matching
import RecordFix.Glob

/-!
# Expressions between anchors

A text that has to be matched from start to end is written between anchors, as a group of its own,
before it is read. An expression that is valid by itself keeps its meaning there, unless a comment
is still open at its end or the anchors take it beyond a limit
(`Pattern.ofChars?_anchored_of_valid`). A text that is not valid by itself does not become valid,
unless it closes a parenthesis that it has not opened (`Pattern.ofChars?_anchored_of_invalid`).
-/

namespace RecordFix.Regex.Reader

variable {r : Reader} {text longer rest rest' : List Char} {gs : List OpenGroup}

/-! ## Groups around -/

/-- The reader inside further groups. -/
def within (gs : List OpenGroup) (r : Reader) : Reader := { r with groups := r.groups ++ gs }

theorem within_nil (r : Reader) : r.within [] = r := by simp [within]

@[simp] theorem within_flags (gs : List OpenGroup) (r : Reader) : (r.within gs).flags = r.flags :=
  rfl

/-- What has been read, inside further groups. -/
def readWithin (gs : List OpenGroup) (read : Option (Reader × List Char)) :
    Option (Reader × List Char) :=
  read.map fun p => (p.1.within gs, p.2)

theorem openNamed_within (gs : List OpenGroup) (r : Reader) (text : List Char) :
    (r.within gs).openNamed text = readWithin gs (r.openNamed text) := by
  unfold openNamed
  cases groupName text with
  | none => rfl
  | some named =>
    simp only [Option.bind_some]
    change (if r.names.contains (some named.1) then none else _) = _
    split <;> rfl

theorem groupFlags_within (gs : List OpenGroup) (r : Reader) (text : List Char) :
    (r.within gs).groupFlags text = readWithin gs (r.groupFlags text) := by
  unfold groupFlags
  rw [within_flags]
  match readFlags r.flags [] text with
  | none => rfl
  | some (flags, []) => rfl
  | some (flags, c :: after) =>
    by_cases hc : c = ':'
    · subst hc
      rfl
    · simp only [beq_iff_eq]
      split <;> rfl

theorem group_within (gs : List OpenGroup) (r : Reader) (text : List Char) :
    (r.within gs).group text = readWithin gs (r.group text) := by
  rw [group_eq, group_eq, within_flags]
  split
  · next rest =>
    unfold groupKind
    split
    · rfl
    · rfl
    · rfl
    · rfl
    · exact openNamed_within gs r _
    · exact openNamed_within gs r _
    · exact groupFlags_within gs r _
  · rfl

theorem repetition_within (gs : List OpenGroup) (r : Reader) (least : Nat) (most : Option Nat)
    (text : List Char) :
    (r.within gs).repetition least most text = readWithin gs (r.repetition least most text) := by
  have hlast (lazy : Bool) : (r.within gs).repeatLast least most lazy =
      (r.repeatLast least most lazy).map (·.within gs) := by
    unfold repeatLast
    rw [show (r.within gs).elements = r.elements from rfl]
    split <;> rfl
  unfold repetition
  split
  · rw [hlast, readWithin, Option.map_map, Option.map_map]
    rfl
  · rw [hlast, readWithin, Option.map_map, Option.map_map]
    rfl

theorem counted_within (gs : List OpenGroup) (r : Reader) (text : List Char) :
    (r.within gs).counted text = readWithin gs (r.counted text) := by
  rw [counted_eq, counted_eq, within_flags]
  cases count r.flags (r.flags.skip text) with
  | none => rfl
  | some least =>
    simp only [Option.bind_some]
    cases most? r.flags least.1 least.2 with
    | none => rfl
    | some most =>
      simp only [Option.bind_some]
      split
      · split
        · rfl
        · exact repetition_within gs r _ _ _
      · rfl

theorem escape_within (gs : List OpenGroup) (r : Reader) (text : List Char) :
    (r.within gs).escape text = readWithin gs (r.escape text) := by
  have hadd (p : Primitive) :
      (r.within gs).addPrimitive p = (r.addPrimitive p).map (·.within gs) := by
    cases p with
    | look holds => rfl
    | _ =>
      simp only [addPrimitive, within_flags, Option.map_map]
      rfl
  rw [escape_eq, escape_eq, within_flags]
  cases readEscape r.flags text with
  | none => rfl
  | some read =>
    simp only [Option.bind_some, hadd, readWithin, Option.map_map]
    rfl

theorem closeGroup_within (gs : List OpenGroup) (r : Reader) (h : r.groups ≠ []) :
    (r.within gs).closeGroup = r.closeGroup.map (·.within gs) := by
  unfold closeGroup
  cases hgroups : r.groups with
  | nil => exact absurd hgroups h
  | cons g outer =>
    rw [show (r.within gs).groups = g :: (outer ++ gs) from congrArg (· ++ gs) hgroups]
    rfl

theorem bracket_within (gs : List OpenGroup) (r : Reader) (text : List Char) :
    (r.within gs).bracket text = readWithin gs (r.bracket text) := by
  simp only [bracket, within_flags, readWithin, Option.map_map]
  rfl

/-- Groups around have no bearing on a sign that does not close one of them. -/
theorem step_within (gs : List OpenGroup) (r : Reader) (c : Char) (rest : List Char)
    (h : c = ')' → r.groups ≠ []) : (r.within gs).step c rest = readWithin gs (r.step c rest) := by
  unfold step
  split
  · exact group_within gs r rest
  · rw [closeGroup_within gs r (h rfl), readWithin, Option.map_map, Option.map_map]
    rfl
  · rfl
  · exact bracket_within gs r rest
  · exact repetition_within gs r _ _ _
  · exact repetition_within gs r _ _ _
  · exact repetition_within gs r _ _ _
  · exact counted_within gs r _
  · exact escape_within gs r _
  · rw [within_flags, readWithin, Option.map_map]
    rfl
  · rfl
  · rfl
  · rfl

/-! ## Runs -/

theorem readAll_nil (fuel : Nat) (r : Reader) : readAll fuel r [] = some r := by
  cases fuel with
  | zero => rfl
  | succ fuel => simp [readAll]

theorem readAll_of_skip_nil (h : r.flags.skip text = []) (fuel : Nat) :
    readAll (fuel + 1) r text = some r := by
  rw [readAll, h]

theorem readAll_of_skip_cons {c : Char} (h : r.flags.skip text = c :: rest) (fuel : Nat) :
    readAll (fuel + 1) r text = (r.step c rest).bind fun (r, rest) => readAll fuel r rest := by
  rw [readAll, h]

theorem readAll_zero_of_skip_cons {c : Char} (h : r.flags.skip text = c :: rest) :
    readAll 0 r text = none := by
  have hne : text ≠ [] := by
    rintro rfl
    rw [skip_nil] at h
    cases h
  simp [readAll, hne]

theorem step_suffix {q : Reader} {c : Char} (h : r.step c text = some (q, rest)) : rest <:+ text :=
  (along_step (extends_append_closing text) c).suffix h

/-- Fuel for every character is enough. -/
theorem readAll_fuel {fuel fuel' : Nat} (hfuel : text.length ≤ fuel)
    (hfuel' : text.length ≤ fuel') : readAll fuel r text = readAll fuel' r text := by
  induction fuel generalizing fuel' r text with
  | zero =>
    obtain rfl := List.eq_nil_of_length_eq_zero (Nat.le_zero.mp hfuel)
    rw [readAll_nil, readAll_nil]
  | succ fuel ih =>
    cases fuel' with
    | zero =>
      obtain rfl := List.eq_nil_of_length_eq_zero (Nat.le_zero.mp hfuel')
      rw [readAll_nil, readAll_nil]
    | succ fuel' =>
      have hlength := (skip_suffix r.flags text).length_le
      cases hskip : r.flags.skip text with
      | nil => rw [readAll_of_skip_nil hskip, readAll_of_skip_nil hskip]
      | cons c rest =>
        rw [readAll_of_skip_cons hskip, readAll_of_skip_cons hskip]
        rw [hskip, List.length_cons] at hlength
        refine Option.bind_congr fun next hstep => ?_
        have := (step_suffix hstep).length_le
        exact ih (by omega) (by omega)

/-- Reading comes to a closing parenthesis while no group is open. -/
inductive Strays : Reader → List Char → Prop
  | here {r : Reader} {text rest : List Char} : r.groups = [] →
      r.flags.skip text = ')' :: rest → Strays r text
  | later {r r' : Reader} {text rest rest' : List Char} {c : Char} :
      r.flags.skip text = c :: rest → r.step c rest = some (r', rest') → Strays r' rest' →
      Strays r text

theorem readAll_of_strays (h : Strays r text) (fuel : Nat) : readAll fuel r text = none := by
  induction h generalizing fuel with
  | @here r text rest hgroups hskip =>
    cases fuel with
    | zero => exact readAll_zero_of_skip_cons hskip
    | succ fuel =>
      have hstep : r.step ')' rest = none := by simp [step, closeGroup, hgroups]
      rw [readAll_of_skip_cons hskip, hstep]
      rfl
  | later hskip hstep _ ih =>
    cases fuel with
    | zero => exact readAll_zero_of_skip_cons hskip
    | succ fuel =>
      rw [readAll_of_skip_cons hskip, hstep]
      exact ih fuel

/-- Closes the innermost group and adds the end anchor. -/
def close (r : Reader) : Option Reader :=
  r.closeGroup.map fun r => r.add ⟨.look r.flags.endLook, 0⟩

theorem readAll_closing (h : r.flags.skip text = closing) {fuel : Nat} (hfuel : 2 ≤ fuel) :
    readAll fuel r text = r.close := by
  obtain ⟨fuel, rfl⟩ := Nat.exists_eq_add_of_le hfuel
  rw [Nat.add_comm, readAll_of_skip_cons h, close]
  change (r.closeGroup.map fun r => (r, ['$'])).bind _ = _
  cases r.closeGroup with
  | none => rfl
  | some r =>
    simp only [Option.map_some, Option.bind_some]
    rw [readAll_of_skip_cons (skip_end r.flags)]
    exact readAll_nil _ _

theorem skipBlanks_brace (rest : List Char) :
    skipBlanks false ('\x7b' :: rest) = '\x7b' :: rest := by
  have hblank : Unicode.isBlank '\x7b' = false := by decide
  simp [skipBlanks, hblank]

/-- There are no digits in the closing. -/
theorem count_closing (f : Flags) : count f closing = none := by
  have hblank : Unicode.isBlank ')' = false := by decide
  simp [count, closing, hblank, countDigits, Text.unsigned?]

/-- A group that is open stays open where a sign is lost. -/
theorem readAll_of_lost {r' q : Reader} (h : LostSign r r' rest) {fuel : Nat}
    (hq : readAll fuel r' rest = some q) : q.groups = r.groups := by
  obtain ⟨hgroups, hcut | ⟨after, rfl, hafter⟩⟩ := h
  · rw [← hgroups]
    rcases List.suffix_cons_iff.mp hcut with rfl | hnil
    · cases fuel with
      | zero => cases (readAll_zero_of_skip_cons (skip_end r'.flags)).symm.trans hq
      | succ fuel =>
        rw [readAll_of_skip_cons (skip_end r'.flags)] at hq
        cases (readAll_nil fuel _).symm.trans hq
        rfl
    · obtain rfl := List.suffix_nil.mp hnil
      cases (readAll_nil fuel r').symm.trans hq
      rfl
  · have hskip : r'.flags.skip ('\x7b' :: after) = '\x7b' :: after := by
      unfold Flags.skip
      split
      · exact skipBlanks_brace after
      · rfl
    cases fuel with
    | zero => cases (readAll_zero_of_skip_cons hskip).symm.trans hq
    | succ fuel =>
      have hstep : r'.step '\x7b' after = none := by
        change r'.counted after = none
        rw [counted_eq, hafter, count_closing]
        rfl
      rw [readAll_of_skip_cons hskip, hstep] at hq
      cases hq

/-! ## Inside a group -/

/-- The run on a longer text inside further groups: where the run on the text comes to an end, it
ends as well if a comment is open, and else goes on to the closing; where the run on the text breaks
off, the groups around are not closed. -/
theorem readAll_within (h : Extends text longer) {fuel fuel' : Nat} (hfuel : text.length ≤ fuel)
    (hfuel' : longer.length ≤ fuel') (hstray : ¬ Strays r text) :
    (∃ q, readAll fuel r text = some q ∧
      ((∀ gs, readAll fuel' (r.within gs) longer = some (q.within gs)) ∨
        ∀ gs, readAll fuel' (r.within gs) longer = (q.within gs).close)) ∨
    (readAll fuel r text = none ∧
      ∀ gs ≠ [], ∀ q, readAll fuel' (r.within gs) longer = some q → q.groups ≠ []) := by
  induction fuel generalizing fuel' r text longer with
  | zero =>
    obtain rfl := List.eq_nil_of_length_eq_zero (Nat.le_zero.mp hfuel)
    refine .inl ⟨r, rfl, ?_⟩
    cases h with
    | same => exact .inl fun gs => readAll_nil _ _
    | more => exact .inr fun gs => readAll_closing (skip_closing _) hfuel'
  | succ fuel ih =>
    have hskip := extends_skip h r.flags
    have hlength := (skip_suffix r.flags text).length_le
    have hlength' := (skip_suffix r.flags longer).length_le
    generalize hshort : r.flags.skip text = short at hskip hlength
    generalize hlong : r.flags.skip longer = long at hskip hlength'
    cases hskip with
    | same =>
      refine .inl ⟨r, readAll_of_skip_nil hshort fuel, .inl fun gs => ?_⟩
      cases fuel' with
      | zero =>
        obtain rfl := List.eq_nil_of_length_eq_zero (Nat.le_zero.mp hfuel')
        exact readAll_nil _ _
      | succ fuel' => exact readAll_of_skip_nil (r := r.within gs) hlong fuel'
    | more =>
      refine .inl ⟨r, readAll_of_skip_nil hshort fuel, .inr fun gs => ?_⟩
      exact readAll_closing (r := r.within gs) hlong (hlength'.trans hfuel')
    | @cons c rest rest' hext =>
      obtain _ | fuel' := fuel'
      · exact absurd (hlength'.trans hfuel') (Nat.not_succ_le_zero _)
      have hopen : c = ')' → r.groups ≠ [] := by
        rintro rfl hgroups
        exact hstray (.here hgroups hshort)
      have hrun (gs : List OpenGroup) : readAll (fuel' + 1) (r.within gs) longer =
          (r.step c rest').bind fun (q, left) => readAll fuel' (q.within gs) left := by
        have hskip : (r.within gs).flags.skip longer = c :: rest' := hlong
        rw [readAll_of_skip_cons hskip, step_within gs r c rest' hopen, readWithin, Option.bind_map]
        rfl
      rw [readAll_of_skip_cons hshort]
      simp only [hrun]
      rw [List.length_cons] at hlength hlength'
      have halong := along_step (r := r) hext c
      cases hstep : r.step c rest with
      | none =>
        rw [hstep] at halong
        refine .inr ⟨rfl, fun gs hgs q hq => ?_⟩
        obtain ⟨⟨r', left⟩, hstep', hq⟩ := Option.bind_eq_some_iff.mp hq
        cases halong with
        | lost hlost =>
          obtain ⟨hgroups, hleft⟩ := hlost r' left hstep'
          have hwithin : LostSign (r.within gs) (r'.within gs) left :=
            ⟨congrArg (· ++ gs) hgroups, hleft⟩
          rw [readAll_of_lost hwithin hq]
          exact List.append_ne_nil_of_right_ne_nil _ hgs
      | some next =>
        obtain ⟨r', left⟩ := next
        rw [hstep] at halong
        generalize hstep' : r.step c rest' = o' at halong
        cases halong with
        | @both _ _ left' hleft hleftext =>
          have hle := hleft.length_le
          have hle' := (step_suffix hstep').length_le
          exact ih hleftext (by omega) (by omega) fun hs => hstray (.later hshort hstep hs)

/-! ## Between anchors -/

/-- The group around an expression between anchors. -/
def outer : OpenGroup := ⟨[.part ⟨.look Look.textStart, 0⟩], [], {}, none⟩

theorem readAll_anchor (fuel : Nat) (text : List Char) :
    readAll (fuel + 2) {} ('^' :: '(' :: '?' :: ':' :: text) =
      readAll fuel (within [outer] {}) text := rfl

/-- The expression that has been read, if it is complete and within the limits. -/
def pattern? (r : Reader) : Option Pattern :=
  if r.groups.isEmpty && r.body.nesting ≤ maxNesting && r.body.regex.fits then
    some ⟨r.body.regex, r.names.reverse⟩
  else none

theorem pattern?_of_groups (h : r.groups ≠ []) : r.pattern? = none := by
  simp [pattern?, h]

/-- Whether the anchors leave an expression that has been read within the limits. -/
def hasRoom (r : Reader) : Bool :=
  r.body.nesting + 2 ≤ maxNesting && r.body.regex.anchored.fits

theorem fits_of_fits_anchored {e : Regex} (h : e.anchored.fits) : e.fits := by
  simp only [fits, anchored, size, decide_eq_true_eq] at h ⊢
  omega

theorem isSome_pattern?_of_hasRoom (hgroups : r.groups = []) (h : r.hasRoom) :
    r.pattern?.isSome := by
  obtain ⟨hnesting, hfits⟩ : r.body.nesting + 2 ≤ maxNesting ∧
      r.body.regex.anchored.fits = true := by
    simpa [hasRoom] using h
  simp [pattern?, hgroups, Nat.le_of_add_right_le hnesting, fits_of_fits_anchored hfits]

/-- The reader after the group around has been closed. -/
def closed (r : Reader) : Reader where
  flags := {}
  elements := [.part ⟨.look Look.textEnd, 0⟩, .part ⟨r.body.regex, r.body.nesting + 1⟩,
    .part ⟨.look Look.textStart, 0⟩]
  alternatives := []
  groups := []
  names := r.names

theorem close_within_outer (hgroups : r.groups = []) :
    (r.within [outer]).close = some r.closed := by
  rw [close, closeGroup, within, hgroups]
  rfl

theorem body_closed (r : Reader) : r.closed.body = ⟨r.body.regex.anchored, r.body.nesting + 2⟩ := by
  have hdeepest : deepest [⟨.look Look.textStart, 0⟩, ⟨r.body.regex, r.body.nesting + 1⟩,
      ⟨.look Look.textEnd, 0⟩] = r.body.nesting + 1 := by
    simp [deepest]
  exact congrArg (fun n => Part.mk r.body.regex.anchored (n + 1)) hdeepest

theorem pattern?_close (hgroups : r.groups = []) :
    (r.within [outer]).close.bind pattern? =
      if r.hasRoom then some ⟨r.body.regex.anchored, r.names.reverse⟩ else none := by
  rw [close_within_outer hgroups, Option.bind_some, pattern?, body_closed]
  rfl

theorem pattern?_close_of_groups (hgroups : r.groups ≠ []) :
    (r.within [outer]).close.bind pattern? = none := by
  have hclose : (r.within [outer]).close = r.close.map (within [outer]) := by
    rw [close, closeGroup_within [outer] r hgroups, close, Option.map_map, Option.map_map]
    rfl
  rw [hclose, Option.bind_map]
  exact Option.bind_eq_none_iff.mpr fun q _ =>
    pattern?_of_groups (List.append_ne_nil_of_right_ne_nil _ (List.cons_ne_nil _ _))

end RecordFix.Regex.Reader

namespace RecordFix.Pattern

open Regex Reader

variable {text : List Char}

theorem ofChars?_eq (text : List Char) :
    ofChars? text = (readAll text.length {} text).bind pattern? := rfl

/-- Whether a valid expression stays valid between anchors: at its end there is no comment open, in
which what follows would be valid as well, and the anchors do not take it beyond a limit. -/
def canBeAnchored (text : List Char) : Bool :=
  (ofChars? (text ++ closing)).isNone && (readAll text.length {} text).all hasRoom

/-- An expression between anchors is read as if it stood there by itself, up to its closing. -/
theorem ofChars?_anchored (text : List Char) :
    ofChars? (Glob.anchored text).toList =
      (readAll (text.length + 4) (within [outer] {}) (text ++ closing)).bind pattern? := by
  rw [Glob.anchored, String.toList_ofList, ofChars?_eq]
  have hlength : (['^', '(', '?', ':'] ++ text ++ [')', '$']).length = text.length + 4 + 2 := by
    simp
  rw [hlength]
  exact congrArg (·.bind pattern?) (readAll_anchor (text.length + 4) (text ++ closing))

/-- How the runs go on from a text to its closing, and with a group around. -/
theorem readAll_enclosed (hstray : ¬ Strays {} text) :
    (∃ q, readAll text.length {} text = some q ∧
      ((ofChars? (text ++ closing) = q.pattern? ∧
          ofChars? (Glob.anchored text).toList = (q.within [outer]).pattern?) ∨
        (ofChars? (text ++ closing) = q.close.bind pattern? ∧
          ofChars? (Glob.anchored text).toList = (q.within [outer]).close.bind pattern?))) ∨
    (readAll text.length {} text = none ∧ ofChars? (Glob.anchored text).toList = none) := by
  have hlength : (text ++ closing).length ≤ text.length + 4 := by simp [closing]
  have hshort : ofChars? (text ++ closing) =
      (readAll (text.length + 4) (within [] {}) (text ++ closing)).bind pattern? := by
    rw [ofChars?_eq, within_nil, readAll_fuel (Nat.le_refl _) hlength]
  rw [hshort, ofChars?_anchored]
  rcases readAll_within (extends_append_closing text) (Nat.le_refl _) hlength hstray with
    ⟨q, hq, hcomment | hclose⟩ | ⟨hnone, hopen⟩
  · refine .inl ⟨q, hq, .inl ⟨?_, ?_⟩⟩
    · rw [hcomment [], within_nil]
      rfl
    · rw [hcomment [outer]]
      rfl
  · refine .inl ⟨q, hq, .inr ⟨?_, ?_⟩⟩
    · rw [hclose [], within_nil]
    · rw [hclose [outer]]
  · refine .inr ⟨hnone, Option.bind_eq_none_iff.mpr fun q hq => ?_⟩
    exact pattern?_of_groups (hopen [outer] (List.cons_ne_nil _ _) q hq)

theorem pattern?_within_outer (q : Reader) : (q.within [outer]).pattern? = none :=
  pattern?_of_groups (List.append_ne_nil_of_right_ne_nil _ (List.cons_ne_nil _ _))

/-- A valid expression that can be anchored means the same between the anchors. -/
theorem ofChars?_anchored_of_valid {p : Pattern} (hp : ofChars? text = some p) :
    ofChars? (Glob.anchored text).toList =
      if canBeAnchored text then some ⟨p.regex.anchored, p.names⟩ else none := by
  rw [ofChars?_eq] at hp
  obtain ⟨q, hq, hpattern⟩ := Option.bind_eq_some_iff.mp hp
  have hstray : ¬ Strays {} text := fun h => by cases (readAll_of_strays h _).symm.trans hq
  have hgroups : q.groups = [] := by
    by_contra hgroups
    cases (pattern?_of_groups hgroups).symm.trans hpattern
  have hclose : q.close = none := by simp [close, closeGroup, hgroups]
  rw [canBeAnchored, hq]
  rcases readAll_enclosed hstray with ⟨q', hq', ⟨hcomment, hread⟩ | ⟨hclosed, hread⟩⟩ | ⟨hnone, -⟩
  · cases hq.symm.trans hq'
    rw [hread, hcomment, hpattern, pattern?_within_outer]
    rfl
  · cases hq.symm.trans hq'
    rw [hread, hclosed, hclose, pattern?_close hgroups]
    have hp : p = ⟨q.body.regex, q.names.reverse⟩ := by
      unfold pattern? at hpattern
      split at hpattern
      · exact (Option.some.inj hpattern).symm
      · cases hpattern
    rw [hp]
    rfl
  · cases hnone.symm.trans hq

/-- A text that is not valid by itself is not valid between anchors, unless it closes a parenthesis
that it has not opened. -/
theorem ofChars?_anchored_of_invalid (htext : ofChars? text = none) (hstray : ¬ Strays {} text) :
    ofChars? (Glob.anchored text).toList = none := by
  rcases readAll_enclosed hstray with ⟨q, hq, ⟨-, hread⟩ | ⟨-, hread⟩⟩ | ⟨-, hread⟩
  · rw [hread, pattern?_within_outer]
  · rw [hread]
    by_cases hgroups : q.groups = []
    · have hpattern : q.pattern? = none := by rwa [ofChars?_eq, hq] at htext
      have hroom : ¬ q.hasRoom := fun h => by
        have := isSome_pattern?_of_hasRoom hgroups h
        rw [hpattern] at this
        cases this
      rw [pattern?_close hgroups, if_neg hroom]
    · exact pattern?_close_of_groups hgroups
  · exact hread

end RecordFix.Pattern
