import RecordFix.Regex.Bracket
import RecordFix.Regex.Size

/-!
# Reading the notation

An expression is read sign by sign. The reader holds the parts of the sequence at hand, the
alternatives before it, and the groups that are open around it. Anything that the notation does not
know, such as looking around or referring back, makes the text invalid, and so do nesting and size
beyond a limit.
-/

namespace RecordFix.Regex

/-- A part of an expression, and how deeply its parts are nested. -/
structure Part where
  regex : Regex
  nesting : Nat

/-- An element of a sequence: a part, or a change of flags, which cannot be repeated. -/
inductive Element where
  | part (p : Part)
  | flags

/-- A group that is open: what stands before it, the flags outside, and its number if it has one. -/
structure OpenGroup where
  elements : List Element
  alternatives : List Part
  flags : Flags
  number : Option Nat

/-- The reader of the notation. Lists are in reverse. -/
structure Reader where
  flags : Flags := {}
  elements : List Element := []
  alternatives : List Part := []
  groups : List OpenGroup := []
  names : List (Option String) := []

/-- The part that an element is. -/
def Element.toPart : Element → Part
  | .part p => p
  | .flags => ⟨.empty, 0⟩

/-- The deepest nesting among some parts. -/
def deepest (parts : List Part) : Nat := parts.foldl (fun n p => max n p.nesting) 0

/-- A sequence of elements, given in reverse. -/
def sequence (elements : List Element) : Part :=
  match elements.reverse.map Element.toPart with
  | [] => ⟨.empty, 0⟩
  | [p] => p
  | p :: rest => ⟨rest.foldl (fun r q => .cat r q.regex) p.regex, deepest (p :: rest) + 1⟩

/-- The alternatives before, given in reverse, and the last one. -/
def choice (alternatives : List Part) (last : Part) : Part :=
  match (last :: alternatives).reverse with
  | [] => last
  | [p] => p
  | p :: rest => ⟨rest.foldl (fun r q => .alt r q.regex) p.regex, deepest (p :: rest) + 1⟩

namespace Reader

/-- The expression between the innermost open parenthesis and here. -/
def body (r : Reader) : Part := choice r.alternatives (sequence r.elements)

/-- Adds a part to the sequence. -/
def add (r : Reader) (p : Part) : Reader := { r with elements := .part p :: r.elements }

/-- Adds a set of characters. -/
def addSet (r : Reader) (s : CharSet) (nesting : Nat) : Reader := r.add ⟨.char s, nesting⟩

/-- Ends an alternative. -/
def nextAlternative (r : Reader) : Reader :=
  { r with elements := [], alternatives := sequence r.elements :: r.alternatives }

/-- Opens a group. -/
def openGroup (r : Reader) (inner : Flags) (number : Option Nat) : Reader :=
  { r with
    flags := inner, elements := [], alternatives := []
    groups := ⟨r.elements, r.alternatives, r.flags, number⟩ :: r.groups }

/-- Opens a group that is numbered, and named if a name is given. -/
def openNumbered (r : Reader) (name : Option String) : Reader :=
  { r.openGroup r.flags (some (r.names.length + 1)) with names := name :: r.names }

/-- Closes the innermost group. -/
def closeGroup (r : Reader) : Option Reader :=
  match r.groups with
  | [] => none
  | g :: outer =>
    let inner := r.body
    let regex := match g.number with
      | some n => .group n inner.regex
      | none => inner.regex
    some { r with
      flags := g.flags, alternatives := g.alternatives, groups := outer
      elements := .part ⟨regex, inner.nesting + 1⟩ :: g.elements }

/-- Whether the character may occur in the name of a group; a name starts with a letter or line. -/
def isNameChar (first : Bool) (c : Char) : Bool :=
  c == '_' || Unicode.isAlphabetic c ||
    (!first && (c == '.' || c == '[' || c == ']' || Unicode.isNumeric c))

/-- The name of a group up to its closing angle bracket. -/
def groupName (text : List Char) : Option (String × List Char) :=
  let name := text.takeWhile (· != '>')
  match name, text.dropWhile (· != '>') with
  | c :: more, '>' :: rest =>
    if isNameChar true c && more.all (isNameChar false) then some (.ofList name, rest) else none
  | _, _ => none

/-- Opens a named group after the sign that announces the name. Names must differ. -/
def openNamed (r : Reader) (text : List Char) : Option (Reader × List Char) :=
  (groupName text).bind fun (name, rest) =>
    if r.names.contains (some name) then none else some (r.openNumbered (some name), rest)

/-- What follows an opening parenthesis: a group of some kind, or a change of flags. -/
def group (r : Reader) (text : List Char) : Option (Reader × List Char) :=
  match r.flags.skip text with
  | '?' :: '=' :: _ | '?' :: '!' :: _ | '?' :: '<' :: '=' :: _ | '?' :: '<' :: '!' :: _ => none
  | '?' :: 'P' :: '<' :: rest => r.openNamed rest
  | '?' :: '<' :: rest => r.openNamed rest
  | '?' :: rest =>
    match readFlags r.flags [] rest with
    | some (flags, ':' :: after) => some (r.openGroup flags none, after)
    | some (flags, _ :: after) =>
      if rest.head? == some ')' then none
      else some ({ r with flags := flags, elements := .flags :: r.elements }, after)
    | _ => none
  | rest => some (r.openNumbered none, rest)

/-- A repetition. What can match the empty text only need not be matched more than once. -/
def repeatPart (p : Regex) (least : Nat) (most : Option Nat) (greedy : Bool) : Regex :=
  if most = some 0 then .empty
  else if p.takesNothing then .repeated p (min least 1) (some 1) greedy
  else .repeated p least most greedy

/-- Repeats the last element. -/
def repeatLast (r : Reader) (least : Nat) (most : Option Nat) (lazy : Bool) : Option Reader :=
  match r.elements with
  | .part p :: before =>
    let regex := repeatPart p.regex least most (lazy == r.flags.swapGreed)
    some { r with elements := .part ⟨regex, p.nesting + 1⟩ :: before }
  | _ => none

/-- A repetition sign has been read; a question mark right after it makes it lazy. -/
def repetition (r : Reader) (least : Nat) (most : Option Nat) (text : List Char) :
    Option (Reader × List Char) :=
  match text with
  | '?' :: rest => (r.repeatLast least most true).map fun r => (r, rest)
  | rest => (r.repeatLast least most false).map fun r => (r, rest)

/-- The digits of a count with the blanks between them skipped where the flags allow; the fuel is
the length of the text. -/
def countDigits (f : Flags) : Nat → List Char → List Char → List Char × List Char
  | 0, seen, text => (seen.reverse, text)
  | _ + 1, seen, [] => (seen.reverse, [])
  | fuel + 1, seen, c :: rest =>
    if c.isDigit then countDigits f fuel (c :: seen) (f.skip rest) else (seen.reverse, c :: rest)

/-- A count; blanks may stand around it. -/
def count (f : Flags) (text : List Char) : Option (Nat × List Char) :=
  let text := text.dropWhile Unicode.isBlank
  let (digits, rest) := countDigits f text.length [] text
  ((Text.unsigned? digits).filter (· < UInt32.size)).map fun n =>
    (n, f.skip (rest.dropWhile Unicode.isBlank))

/-- A repetition with counts, after its opening brace. -/
def counted (r : Reader) (text : List Char) : Option (Reader × List Char) :=
  let f := r.flags
  (count f (f.skip text)).bind fun (least, rest) =>
    let bounds : Option (Option Nat × List Char) :=
      match rest with
      | ',' :: rest =>
        match f.skip rest with
        | '\x7d' :: rest => some (none, '\x7d' :: rest)
        | rest => (count f rest).map fun (most, rest) => (some most, rest)
      | rest => some (some least, rest)
    bounds.bind fun (most, rest) =>
      match rest with
      | '\x7d' :: rest =>
        if most.any (· < least) then none
        else r.repetition least most (f.skip rest)
      | _ => none

/-- A class in brackets, after its opening bracket. -/
def bracket (r : Reader) (text : List Char) : Option (Reader × List Char) :=
  let (negated, first, rest) := openClass r.flags text
  (readClass r.flags (rest.length + 1) [.bracket .empty negated] first rest).map fun (s, rest) =>
    (r.addSet s 1, rest)

/-- What a backslash starts. -/
def escape (r : Reader) (text : List Char) : Option (Reader × List Char) :=
  (readEscape r.flags text).bind fun (p, rest) =>
    match p with
    | .look holds => some (r.add ⟨.look holds, 0⟩, rest)
    | p => (p.set? r.flags).map fun s => (r.addSet s 0, rest)

/-- Reads one sign and what belongs to it. -/
def step (r : Reader) (c : Char) (rest : List Char) : Option (Reader × List Char) :=
  match c with
  | '(' => r.group rest
  | ')' => r.closeGroup.map fun r => (r, rest)
  | '|' => some (r.nextAlternative, rest)
  | '[' => r.bracket rest
  | '?' => r.repetition 0 (some 1) rest
  | '*' => r.repetition 0 none rest
  | '+' => r.repetition 1 none rest
  | '\x7b' => r.counted rest
  | '\\' => r.escape rest
  | '.' => r.flags.dot?.map fun s => (r.addSet s 0, rest)
  | '^' => some (r.add ⟨.look r.flags.startLook, 0⟩, rest)
  | '$' => some (r.add ⟨.look r.flags.endLook, 0⟩, rest)
  | c => some (r.addSet (r.flags.literal c) 0, rest)

/-- Reads to the end of the text. The fuel is the length of the text. -/
def readAll : Nat → Reader → List Char → Option Reader
  | 0, r, text => if text.isEmpty then some r else none
  | fuel + 1, r, text =>
    match r.flags.skip text with
    | [] => some r
    | c :: rest => (r.step c rest).bind fun (r, rest) => readAll fuel r rest

end Reader

/-- The deepest nesting that an expression may have. -/
def maxNesting : Nat := 250

end RecordFix.Regex

namespace RecordFix.Pattern

/-- The expression that a text writes, if it writes one within the limits. -/
def ofChars? (text : List Char) : Option Pattern :=
  (Regex.Reader.readAll text.length {} text).bind fun r =>
    let body := r.body
    if r.groups.isEmpty && body.nesting ≤ Regex.maxNesting && body.regex.fits then
      some ⟨body.regex, r.names.reverse⟩
    else none

/-- The expression that a text writes, if it writes one within the limits. -/
def parse? (text : String) : Option Pattern := ofChars? text.toList

end RecordFix.Pattern
