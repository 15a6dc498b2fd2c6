import RecordFix.Regex.Parser
import RecordFix.Regex.Template
import RecordFix.Text.Search

/-!
# Patterns for field names

A glob names fields with wildcards: `*` stands for any characters, `?` for one, a class in brackets
for one of its characters, and a bar separates alternatives. A class is negated by `!` or `^` at its
start. A bracket that is not closed, or that is closed at once, is an ordinary character. A pattern
without wildcards names the field that is called so, and so does one whose classes make no sense or
whose expression is too large.
-/

namespace RecordFix

/-- A part of a glob. -/
inductive Glob.Part where
  | anyChars
  | anyChar
  | bar
  | class (negated : Bool) (members : List Char)
  | char (c : Char)
  deriving DecidableEq, Repr

namespace Glob

/-- Whether the part is more than an ordinary character. -/
def Part.isWildcard : Part → Bool
  | .char _ => false
  | _ => true

/-- Whether the class after a bracket is negated, and what follows the sign that says so. -/
def negation : List Char → Bool × List Char
  | [] => (false, [])
  | c :: rest => if c = '!' || c = '^' then (true, rest) else (false, c :: rest)

/-- The class after a bracket, and what follows it; none if it has no members or is not closed. -/
def classAt? (text : List Char) : Option (Part × List Char) :=
  let (negated, body) := negation text
  match Text.splitOnce ']' body with
  | some (c :: members, rest) => some (.class negated (c :: members), rest)
  | _ => none

theorem length_splitOnce {sep : Char} {text before after : List Char}
    (h : Text.splitOnce sep text = some (before, after)) : after.length < text.length := by
  induction text generalizing before with
  | nil => simp [Text.splitOnce] at h
  | cons c rest ih =>
    by_cases hc : c = sep
    · simp [Text.splitOnce, hc] at h
      simp [← h.2]
    · simp only [Text.splitOnce, hc, if_false, Option.map_eq_some_iff, Prod.exists,
        Prod.mk.injEq] at h
      obtain ⟨b, a, hb, -, rfl⟩ := h
      exact Nat.lt_succ_of_lt (ih hb)

theorem length_negation (text : List Char) : (negation text).2.length ≤ text.length := by
  cases text with
  | nil => simp [negation]
  | cons c rest =>
    simp only [negation]
    split <;> simp

theorem length_classAt? {text rest : List Char} {p : Part} (h : classAt? text = some (p, rest)) :
    rest.length < text.length := by
  have hn := length_negation text
  simp only [classAt?] at h
  split at h
  · next hs =>
    cases h
    exact Nat.lt_of_lt_of_le (length_splitOnce hs) hn
  · cases h

/-- The parts of a glob. -/
def parts (text : List Char) : List Part :=
  match text with
  | [] => []
  | c :: rest =>
    if c = '*' then .anyChars :: parts rest
    else if c = '?' then .anyChar :: parts rest
    else if c = '|' then .bar :: parts rest
    else if c = '[' then
      match _h : classAt? rest with
      | some (p, after) => p :: parts after
      | none => .char c :: parts rest
    else .char c :: parts rest
termination_by text.length
decreasing_by
  all_goals first
    | exact Nat.lt_succ_self _
    | exact Nat.lt_succ_of_lt (length_classAt? _h)

/-- A character as a regular expression that matches just this character. -/
def quoteChar (c : Char) : List Char :=
  if "\\.+*?()|[]\x7b\x7d^$#&-~".toList.contains c then ['\\', c] else [c]

/-- A member of a class as it is written in a regular expression. -/
def quoteMember (c : Char) : List Char :=
  if c = '\\' || c = '[' || c = '&' || c = '~' then ['\\', c] else [c]

/-- The regular expression for a part. -/
def Part.regexText : Part → List Char
  | .anyChars => ['.', '*']
  | .anyChar => ['.']
  | .bar => ['|']
  | .class negated members =>
    '[' :: ((if negated then ['^'] else []) ++ members.flatMap quoteMember ++ [']'])
  | .char c => quoteChar c

/-- A regular expression that has to match the text from its start to its end. -/
def anchored (regex : List Char) : String :=
  .ofList (['^', '(', '?', ':'] ++ regex ++ [')', '$'])

/-- The regular expression for a glob; none if the text has no wildcards. -/
def regexText? (glob : String) : Option String :=
  let ps := parts glob.toList
  if ps.any Part.isWildcard then some (anchored (ps.flatMap Part.regexText)) else none

end Glob

/-- A pattern for field names, ready for use. -/
inductive FieldPattern where
  | literal (name : String)
  | glob (pattern : Pattern)

namespace FieldPattern

/-- Whether the expression for the text is valid, if the text has wildcards. -/
def compiles (s : String) : Bool :=
  (Glob.regexText? s).all fun text => (Pattern.parse? text).isSome

/-- The pattern that a text writes. -/
def ofString (s : String) : FieldPattern :=
  match (Glob.regexText? s).bind Pattern.parse? with
  | some p => .glob p
  | none => .literal s

/-- Whether the field is one that the pattern names. -/
def holds (p : FieldPattern) (field : String) : Bool :=
  match p with
  | .literal name => name == field
  | .glob p => p.occursIn field

/-- Whether the pattern names one field only. -/
def isLiteral : FieldPattern → Bool
  | .literal _ => true
  | .glob _ => false

/-- A text without wildcards names the field that is called so. -/
theorem ofString_of_isLiteral {s : String} (h : (ofString s).isLiteral) :
    ofString s = .literal s := by
  unfold ofString at h ⊢
  split at h
  · cases h
  · rfl

end FieldPattern

end RecordFix
