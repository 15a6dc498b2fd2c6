import Mathlib.Data.List.Forall2
import Mathlib.Tactic.SplitIfs
import RecordFix.Json.Printer
import RecordFix.Json.Token

/-!
# How tokens are spelled

`Token.Spells` relates a text to the tokens it spells: a token is written as its punctuation mark or
as a string in quotes, with blanks around it as wanted. The reader of tokens gives back what a text
spells (`tokens?_of_spells`), and both the compact and the indented text of a document spell its
tokens (`spells_write`, `spells_writeIndented`), as long as it is made of strings, arrays and
objects alone (`Json.Textual`). So do documents one on each line (`spells_lines`).
-/

namespace RecordFix.Json

/-! ## Strings in quotes -/

namespace Token

theorem hexDigit?_hexDigit {n : Nat} (h : n < 16) : Text.hexDigit? (hexDigit n) = some n := by
  revert n
  decide

/-- A control character is read back from its four hexadecimal digits. -/
theorem foldlM_step_control (c : Char) (hc : c.toNat < 0x20) (seen : List Char)
    (done : List Token) :
    ['\\', 'u', '0', '0', hexDigit (c.toNat / 16), hexDigit (c.toNat % 16)].foldlM Reader.step
      ⟨.quoted seen, done⟩ = some ⟨.quoted (c :: seen), done⟩ := by
  have hzero : Text.hexDigit? '0' = some 0 := by decide
  have hhigh := hexDigit?_hexDigit (n := c.toNat / 16) (by omega)
  have hlow := hexDigit?_hexDigit (n := c.toNat % 16) (by omega)
  have hvalue : c.toNat / 16 * 16 + c.toNat % 16 = c.toNat := by omega
  have hafter : afterUnicode seen c.toNat = some (.quoted (c :: seen)) := by
    have hnone : ¬ 0xd800 ≤ c.toNat ∧ ¬ 0xdc00 ≤ c.toNat := by omega
    simp [afterUnicode, hnone]
  simp [Reader.step, hzero, hhigh, hlow, hvalue, hafter]

/-- A character in a string is read back from how it is written there. -/
theorem foldlM_step_escape (c : Char) (seen : List Char) (done : List Token) :
    (escape c).foldlM Reader.step ⟨.quoted seen, done⟩ = some ⟨.quoted (c :: seen), done⟩ := by
  have hcode {n : Nat} (h : c.toNat = n) : c = Char.ofNat n := by rw [← h, Char.ofNat_toNat]
  unfold escape
  split_ifs with hquote hslash hline hreturn htab hback hfeed hcontrol
  · subst hquote; rfl
  · subst hslash; rfl
  · subst hline; rfl
  · subst hreturn; rfl
  · subst htab; rfl
  · rw [hcode hback]; rfl
  · rw [hcode hfeed]; rfl
  · exact foldlM_step_control c hcontrol seen done
  · simp [Reader.step, hquote, hslash, hcontrol]

theorem foldlM_step_escapes (text seen : List Char) (done : List Token) :
    (text.flatMap escape).foldlM Reader.step ⟨.quoted seen, done⟩ =
      some ⟨.quoted (text.reverse ++ seen), done⟩ := by
  induction text generalizing seen with
  | nil => rfl
  | cons c rest ih =>
    rw [List.flatMap_cons, List.foldlM_append, foldlM_step_escape, List.reverse_cons,
      List.append_assoc]
    exact ih (c :: seen)

theorem foldlM_step_quote (s : String) (done : List Token) :
    (quote s).foldlM Reader.step ⟨.between, done⟩ = some ⟨.between, .text s :: done⟩ := by
  have hopen : Reader.step ⟨.between, done⟩ '"' = some ⟨.quoted [], done⟩ := rfl
  rw [quote, List.foldlM_cons, hopen]
  show (s.toList.flatMap escape ++ ['"']).foldlM Reader.step ⟨.quoted [], done⟩ = _
  rw [List.foldlM_append, foldlM_step_escapes]
  simp [Reader.step]

/-! ## Spelling -/

/-- The text spells the tokens: each of them is a punctuation mark or a string in quotes, and blanks
stand around them as wanted. -/
inductive Spells : List Char → List Token → Prop where
  | nil : Spells [] []
  | blank {c : Char} {text : List Char} {tokens : List Token} (blank : isBlank c = true)
    (rest : Spells text tokens) : Spells (c :: text) tokens
  | mark {c : Char} {text : List Char} {token : Token} {tokens : List Token}
    (mark : punctuation? c = some token) (rest : Spells text tokens) :
    Spells (c :: text) (token :: tokens)
  | text {s : String} {text : List Char} {tokens : List Token} (rest : Spells text tokens) :
    Spells (quote s ++ text) (.text s :: tokens)

/-- A punctuation mark is no blank and no quotation mark. -/
theorem start_of_punctuation {c : Char} {token : Token} (h : punctuation? c = some token)
    (done : List Token) : Reader.start done c = ⟨.between, token :: done⟩ := by
  have hmark : isBlank c = false ∧ c ≠ '"' := by
    unfold punctuation? at h
    split at h
    case h_7 => cases h
    all_goals exact ⟨rfl, by decide⟩
  simp [Reader.start, hmark, h]

/-- The reader of tokens finds the tokens that a text spells. -/
theorem foldlM_step_of_spells {text : List Char} {tokens : List Token} (h : Spells text tokens)
    (done : List Token) :
    text.foldlM Reader.step ⟨.between, done⟩ = some ⟨.between, tokens.reverse ++ done⟩ := by
  induction h generalizing done with
  | nil => rfl
  | blank hblank rest ih =>
    have hstart : Reader.step ⟨.between, done⟩ _ = some ⟨.between, done⟩ :=
      congrArg some (if_pos hblank)
    rw [List.foldlM_cons, hstart]
    exact ih done
  | @mark c text token tokens hmark rest ih =>
    have hstart : Reader.step ⟨.between, done⟩ c = some ⟨.between, token :: done⟩ :=
      congrArg some (start_of_punctuation hmark done)
    rw [List.foldlM_cons, hstart, List.reverse_cons, List.append_assoc]
    exact ih (token :: done)
  | @text s text tokens rest ih =>
    rw [List.foldlM_append, foldlM_step_quote, List.reverse_cons, List.append_assoc]
    exact ih (.text s :: done)

namespace Spells

variable {a b : List Char} {ts us : List Token}

theorem append (h : Spells a ts) (h' : Spells b us) : Spells (a ++ b) (ts ++ us) := by
  induction h with
  | nil => exact h'
  | blank hblank _ ih => exact .blank hblank ih
  | mark hmark _ ih => exact .mark hmark ih
  | text _ ih =>
    rw [List.append_assoc]
    exact .text ih

theorem quote (s : String) : Spells (quote s) [.text s] := by
  have h : Spells (Json.quote s ++ []) [.text s] := .text .nil
  rwa [List.append_nil] at h

theorem newLine (depth : Nat) : Spells (newLine depth) [] := by
  have hblanks (n : Nat) : Spells (List.replicate n ' ') [] := by
    induction n with
    | zero => exact .nil
    | succ n ih => exact .blank rfl ih
  exact .blank rfl (hblanks _)

end Spells

end Token

theorem tokens?_of_spells {text : List Char} {ts : List Token} (h : Token.Spells text ts) :
    tokens? text = some ts := by
  have hread := Token.foldlM_step_of_spells h []
  rw [List.append_nil] at hread
  unfold tokens?
  rw [hread]
  exact congrArg some ts.reverse_reverse

/-! ## The tokens of a document -/

/-- Groups of tokens with a comma between them. -/
def separated : List (List Token) → List Token
  | [] => []
  | group :: rest => group ++ rest.flatMap (.comma :: ·)

mutual

/-- The tokens of a document. -/
def tokens : Json → List Token
  | .string s => [.text s]
  | .array items => .openArray :: (separated (tokensOfItems items) ++ [.closeArray])
  | .object members => .openObject :: (separated (tokensOfMembers members) ++ [.closeObject])
  | value => [.scalar value]

/-- The tokens of each of the items of an array. -/
def tokensOfItems : List Json → List (List Token)
  | [] => []
  | item :: rest => tokens item :: tokensOfItems rest

/-- The tokens of each of the members of an object. -/
def tokensOfMembers : List (String × Json) → List (List Token)
  | [] => []
  | (key, value) :: rest => (.text key :: .colon :: tokens value) :: tokensOfMembers rest

end

mutual

/-- The document is made of strings, arrays and objects alone. -/
def Textual : Json → Prop
  | .string _ => True
  | .array items => TextualItems items
  | .object members => TextualMembers members
  | _ => False

/-- The items of an array are made of strings, arrays and objects alone. -/
def TextualItems : List Json → Prop
  | [] => True
  | item :: rest => item.Textual ∧ TextualItems rest

/-- The members of an object are made of strings, arrays and objects alone. -/
def TextualMembers : List (String × Json) → Prop
  | [] => True
  | (_, value) :: rest => value.Textual ∧ TextualMembers rest

end

theorem textualItems_iff {items : List Json} :
    TextualItems items ↔ ∀ item ∈ items, item.Textual := by
  induction items with
  | nil => simp [TextualItems]
  | cons item rest ih => rw [TextualItems, ih, List.forall_mem_cons]

theorem textualMembers_iff {members : List (String × Json)} :
    TextualMembers members ↔ ∀ member ∈ members, member.2.Textual := by
  induction members with
  | nil => simp [TextualMembers]
  | cons member rest ih => rw [TextualMembers, ih, List.forall_mem_cons]

theorem textualMembers_append {members others : List (String × Json)} :
    TextualMembers (members ++ others) ↔ TextualMembers members ∧ TextualMembers others := by
  rw [textualMembers_iff, textualMembers_iff, textualMembers_iff, List.forall_mem_append]

/-! ## Documents spell their tokens -/

open Token

theorem spells_commas {pieces : List (List Char)} {groups : List (List Token)}
    (h : List.Forall₂ Spells pieces groups) : Spells (commas pieces) (separated groups) := by
  induction h with
  | nil => exact .nil
  | @cons piece group pieces groups hpiece hrest ih =>
    cases hrest with
    | nil => simpa [commas, separated] using hpiece
    | cons hnext hrest => exact hpiece.append (.mark rfl ih)

/-- Pieces may begin on a new line. -/
theorem forall₂_newLine {pieces : List (List Char)} {groups : List (List Token)}
    (h : List.Forall₂ Spells pieces groups) (depth : Nat) :
    List.Forall₂ Spells (pieces.map (newLine depth ++ ·)) groups :=
  List.forall₂_map_left_iff.mpr (h.imp fun _ _ hpiece => (Spells.newLine depth).append hpiece)

/-- Pieces between two brackets, each on a line of its own. -/
theorem spells_block {pieces : List (List Char)} {groups : List (List Token)}
    {opening closing : Char} {first last : Token} (hopening : punctuation? opening = some first)
    (hclosing : punctuation? closing = some last) (h : List.Forall₂ Spells pieces groups)
    (depth : Nat) :
    Spells (block depth opening closing pieces) (first :: (separated groups ++ [last])) := by
  have hend : Spells [closing] [last] := .mark hclosing .nil
  cases h with
  | nil => exact .mark hopening hend
  | cons hpiece hrest =>
    have hpieces := spells_commas (forall₂_newLine (.cons hpiece hrest) (depth + 1))
    have hlast := (Spells.newLine depth).append hend
    rw [block, if_neg (by simp), List.append_assoc]
    exact .mark hopening (hpieces.append hlast)

mutual

theorem spells_write (value : Json) (h : value.Textual) : Spells (write value) (tokens value) := by
  match value with
  | .string s =>
    rw [write, tokens]
    exact .quote s
  | .array items =>
    rw [Textual] at h
    rw [write, tokens]
    exact .mark rfl ((spells_commas (spells_writeItems items h)).append (.mark rfl .nil))
  | .object members =>
    rw [Textual] at h
    rw [write, tokens]
    exact .mark rfl ((spells_commas (spells_writeMembers members h)).append (.mark rfl .nil))

theorem spells_writeItems (items : List Json) (h : TextualItems items) :
    List.Forall₂ Spells (writeItems items) (tokensOfItems items) := by
  match items with
  | [] =>
    rw [writeItems, tokensOfItems]
    exact .nil
  | item :: rest =>
    rw [TextualItems] at h
    rw [writeItems, tokensOfItems]
    exact .cons (spells_write item h.1) (spells_writeItems rest h.2)

theorem spells_writeMembers (members : List (String × Json)) (h : TextualMembers members) :
    List.Forall₂ Spells (writeMembers members) (tokensOfMembers members) := by
  match members with
  | [] =>
    rw [writeMembers, tokensOfMembers]
    exact .nil
  | (key, value) :: rest =>
    rw [TextualMembers] at h
    rw [writeMembers, tokensOfMembers]
    exact .cons ((Spells.quote key).append (.mark rfl (spells_write value h.1)))
      (spells_writeMembers rest h.2)

end

mutual

theorem spells_writeIndented (depth : Nat) (value : Json) (h : value.Textual) :
    Spells (writeIndented depth value) (tokens value) := by
  match value with
  | .string s =>
    rw [writeIndented, tokens]
    exact .quote s
  | .array items =>
    rw [Textual] at h
    rw [writeIndented, tokens]
    exact spells_block rfl rfl (spells_writeIndentedItems (depth + 1) items h) depth
  | .object members =>
    rw [Textual] at h
    rw [writeIndented, tokens]
    exact spells_block rfl rfl (spells_writeIndentedMembers (depth + 1) members h) depth

theorem spells_writeIndentedItems (depth : Nat) (items : List Json) (h : TextualItems items) :
    List.Forall₂ Spells (writeIndentedItems depth items) (tokensOfItems items) := by
  match items with
  | [] =>
    rw [writeIndentedItems, tokensOfItems]
    exact .nil
  | item :: rest =>
    rw [TextualItems] at h
    rw [writeIndentedItems, tokensOfItems]
    exact .cons (spells_writeIndented depth item h.1) (spells_writeIndentedItems depth rest h.2)

theorem spells_writeIndentedMembers (depth : Nat) (members : List (String × Json))
    (h : TextualMembers members) :
    List.Forall₂ Spells (writeIndentedMembers depth members) (tokensOfMembers members) := by
  match members with
  | [] =>
    rw [writeIndentedMembers, tokensOfMembers]
    exact .nil
  | (key, value) :: rest =>
    rw [TextualMembers] at h
    rw [writeIndentedMembers, tokensOfMembers]
    exact .cons ((Spells.quote key).append
        (.mark rfl (.blank rfl (spells_writeIndented depth value h.1))))
      (spells_writeIndentedMembers depth rest h.2)

end

/-- Documents one on each line. -/
theorem spells_lines (documents : List Json) (h : ∀ j ∈ documents, j.Textual) :
    Spells (['\n'].intercalate (documents.map write)) (documents.flatMap tokens) := by
  induction documents with
  | nil => exact .nil
  | cons document rest ih =>
    rw [List.forall_mem_cons] at h
    have hfirst := spells_write document h.1
    cases rest with
    | nil => simpa using hfirst
    | cons next rest =>
      rw [List.map_cons, List.map_cons, List.intercalate_cons_cons, List.append_assoc]
      exact hfirst.append (.blank rfl (ih h.2))

end RecordFix.Json
