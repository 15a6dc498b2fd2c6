import RecordFix.Fix.Variables

/-!
# Variables are replaced once

A text that is woven of pieces without opening brackets and of variables between them is read
variable by variable: each of them becomes its value, or stays if it is unknown, and reading goes on
behind its closing bracket (`Variables.resolve_append_token`). Nothing that a value brings in is
read, so values may look like variables or become the like together with the pieces next to them
(`Variables.resolve_weave`).
-/

namespace RecordFix.Variables

variable {vars : Entries String}

/-! ## Reading characters -/

/-- A text without opening brackets stays as it is. -/
theorem resolveFrom_of_notMem {piece : List Char} (h : '[' ∉ piece) {p : Place}
    (hp : p = .outside ∨ p = .dollar) : resolveFrom vars p piece = p.written ++ piece := by
  induction piece generalizing p with
  | nil => rw [resolveFrom, List.append_nil]
  | cons c rest ih =>
    obtain ⟨hc, hrest⟩ := List.ne_and_not_mem_of_not_mem_cons h
    by_cases hdollar : c = '$' <;> rcases hp with rfl | rfl <;>
      simp [resolveFrom, hdollar, hc.symm, ih hrest, Place.written]

/-- A variable begins behind a piece without opening brackets, even if the piece ends in dollar
signs. -/
theorem resolveFrom_append_open {piece : List Char} (h : '[' ∉ piece) {p : Place}
    (hp : p = .outside ∨ p = .dollar) (rest : List Char) :
    resolveFrom vars p (piece ++ '$' :: '[' :: rest) =
      p.written ++ piece ++ resolveFrom vars (.name []) rest := by
  induction piece generalizing p with
  | nil => rcases hp with rfl | rfl <;> simp [resolveFrom, Place.written]
  | cons c cs ih =>
    obtain ⟨hc, hcs⟩ := List.ne_and_not_mem_of_not_mem_cons h
    by_cases hdollar : c = '$' <;> rcases hp with rfl | rfl <;>
      simp [resolveFrom, hdollar, hc.symm, ih hcs, Place.written]

/-- A name without brackets is read up to its closing bracket. -/
theorem resolveFrom_name {name : List Char} (hopen : '[' ∉ name) (hclose : ']' ∉ name)
    (reversed rest : List Char) :
    resolveFrom vars (.name reversed) (name ++ ']' :: rest) =
      value vars (reversed.reverse ++ name) ++ resolveFrom vars .outside rest := by
  induction name generalizing reversed with
  | nil => simp [resolveFrom]
  | cons c cs ih =>
    obtain ⟨hcopen, hcsopen⟩ := List.ne_and_not_mem_of_not_mem_cons hopen
    obtain ⟨hcclose, hcsclose⟩ := List.ne_and_not_mem_of_not_mem_cons hclose
    have hread : resolveFrom vars (.name reversed) (c :: (cs ++ ']' :: rest)) =
        resolveFrom vars (.name (c :: reversed)) (cs ++ ']' :: rest) := by
      rw [resolveFrom.eq_def]
      simp only [if_neg hcclose.symm, if_neg hcopen.symm]
    rw [List.cons_append, hread, ih hcsopen hcsclose, List.reverse_cons, List.append_assoc,
      List.singleton_append]

/-! ## Texts woven of pieces and variables -/

/-- How a variable is written. -/
def token (name : String) : String := "$[" ++ name ++ "]"

/-- What a variable becomes. -/
def substituted (vars : Entries String) (name : String) : String :=
  (Entries.get? vars name).getD (token name)

/-- A piece of text, and more pieces with something written before each of them for a name. -/
def weave (write : String → String) (first : String) : List (String × String) → String
  | [] => first
  | (name, piece) :: rest => first ++ write name ++ weave write piece rest

theorem toList_token (name : String) :
    (token name).toList = '$' :: '[' :: (name.toList ++ [']']) := by
  simp [token]

theorem value_toList (vars : Entries String) (name : String) :
    value vars name.toList = (substituted vars name).toList := by
  rw [value, String.ofList_toList, substituted]
  cases Entries.get? vars name with
  | none => exact (toList_token name).symm
  | some text => rfl

/-- The first variable of a text is replaced, and reading goes on behind it. -/
theorem resolve_append_token (vars : Entries String) {piece name : String}
    (hpiece : '[' ∉ piece.toList) (hopen : '[' ∉ name.toList) (hclose : ']' ∉ name.toList)
    (rest : String) :
    resolve vars (piece ++ token name ++ rest) =
      piece ++ substituted vars name ++ resolve vars rest := by
  have hread : (piece ++ token name ++ rest).toList =
      piece.toList ++ '$' :: '[' :: (name.toList ++ ']' :: rest.toList) := by
    simp [toList_token]
  rw [resolve, hread, resolveFrom_append_open hpiece (.inl rfl),
    resolveFrom_name hopen hclose, List.reverse_nil, List.nil_append, value_toList]
  simp [resolve, String.ofList_append, Place.written, String.append_assoc]

/-- Each variable of a text is replaced by its value as it is, or stays as written if it is unknown;
nothing else changes. -/
theorem resolve_weave (vars : Entries String) {first : String} {rest : List (String × String)}
    (hfirst : '[' ∉ first.toList)
    (hnames : ∀ part ∈ rest, '[' ∉ part.1.toList ∧ ']' ∉ part.1.toList)
    (hpieces : ∀ part ∈ rest, '[' ∉ part.2.toList) :
    resolve vars (weave token first rest) = weave (substituted vars) first rest := by
  induction rest generalizing first with
  | nil =>
    rw [weave, weave, resolve, resolveFrom_of_notMem hfirst (.inl rfl)]
    simp [Place.written]
  | cons part rest ih =>
    obtain ⟨⟨hopen, hclose⟩, hnames⟩ := List.forall_mem_cons.mp hnames
    obtain ⟨hpiece, hpieces⟩ := List.forall_mem_cons.mp hpieces
    rw [weave, weave, resolve_append_token vars hfirst hopen hclose, ih hpiece hnames hpieces]

/-- A value that opens a variable which the next piece closes, a value that is written like a
variable, and a variable that is unknown, behind a dollar sign and next to each other. -/
theorem resolve_weave_tagsSample :
    let vars := [("a", "$["), ("b", "$[a]"), ("", "c]")]
    let parts := [("a", "b]"), ("b", ""), ("x y", "]$"), ("", "")]
    (∀ part ∈ parts, '[' ∉ part.1.toList ∧ ']' ∉ part.1.toList) ∧
      weave token "$" parts = "$$[a]b]$[b]$[x y]]$$[]" ∧
      resolve vars (weave token "$" parts) = "$$[b]$[a]$[x y]]$c]" := by
  intro vars parts
  have hnames : ∀ part ∈ parts, '[' ∉ part.1.toList ∧ ']' ∉ part.1.toList := by decide
  refine ⟨hnames, by decide, ?_⟩
  rw [resolve_weave vars (by decide) hnames (by decide)]
  decide

end RecordFix.Variables
