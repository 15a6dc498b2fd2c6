import RecordFix.Regex.Escape

/-!
# Bracketed classes of the notation

A class in brackets lists characters, ranges and classes, may contain further brackets, and may
combine what is listed so far with what follows by intersection, difference or symmetric difference,
from left to right.
-/

namespace RecordFix.Regex

/-- The ways of combining two sets. -/
inductive SetOp where
  | inter
  | diff
  | symmDiff

/-- Applies a combination. -/
def SetOp.apply (op : SetOp) (s t : CharSet) : CharSet :=
  match op with
  | .inter => s.inter t
  | .diff => s.diff t
  | .symmDiff => s.symmDiff t

/-- What is waiting outside the class at hand: brackets around it, with what they list so far, or
the left side of a combination. -/
inductive Pending where
  | bracket (outer : CharSet) (negated : Bool)
  | operand (op : SetOp) (left : CharSet)

/-- The classes of ASCII characters by their names. -/
def asciiClass? (name : String) : Option CharSet :=
  match name with
  | "alnum" => some .asciiAlphanum
  | "alpha" => some (.ofRanges [(0x41, 0x5a), (0x61, 0x7a)])
  | "ascii" => some (.ofRanges [(0, 0x7f)])
  | "blank" => some (.ofRanges [(9, 9), (0x20, 0x20)])
  | "cntrl" => some (.ofRanges [(0, 0x1f), (0x7f, 0x7f)])
  | "digit" => some (.ofRanges [(0x30, 0x39)])
  | "graph" => some (.ofRanges [(0x21, 0x7e)])
  | "lower" => some (.ofRanges [(0x61, 0x7a)])
  | "print" => some (.ofRanges [(0x20, 0x7e)])
  | "punct" => some (.ofRanges [(0x21, 0x2f), (0x3a, 0x40), (0x5b, 0x60), (0x7b, 0x7e)])
  | "space" => some (.ofRanges [(9, 13), (0x20, 0x20)])
  | "upper" => some (.ofRanges [(0x41, 0x5a)])
  | "word" => some (Look.wordSet false)
  | "xdigit" => some (.ofRanges [(0x30, 0x39), (0x41, 0x46), (0x61, 0x66)])
  | _ => none

/-- The set after folding and negation. Without Unicode a complement would match parts of
characters. -/
def finishSet (f : Flags) (negated : Bool) (s : CharSet) : Option CharSet :=
  if !negated then some (f.foldSet s)
  else if f.unicode then some (f.foldSet s).compl
  else none

/-- A class of ASCII characters after an opening bracket, if its name is one: the class, whether it
is negated, and the rest. -/
def readAsciiClass (text : List Char) : Option (CharSet × Bool × List Char) :=
  match text with
  | ':' :: rest =>
    let (negated, rest) := match rest with
      | '^' :: rest => (true, rest)
      | rest => (false, rest)
    let name := rest.takeWhile (· != ':')
    match rest.dropWhile (· != ':') with
    | ':' :: ']' :: rest => (asciiClass? (.ofList name)).map fun s => (s, negated, rest)
    | _ => none
  | _ => none

/-- One sign inside a class. -/
def readClassItem (f : Flags) (text : List Char) : Option (Primitive × List Char) :=
  match text with
  | [] => none
  | '\\' :: rest => readEscape f rest
  | c :: rest => some (.literal c false, rest)

/-- The set of a sign inside a class before folding. -/
def classItemSet? (f : Flags) : Primitive → Option CharSet
  | .literal c _ => if !f.unicode && 127 < c.toNat then none else some (.single c)
  | p => p.set? f

/-- The next sign after blanks and the start of a comment. -/
def signAfterBlanks (f : Flags) (text : List Char) : Option Char :=
  if !f.verbose then text.head?
  else
    match text.dropWhile Unicode.isBlank with
    | '#' :: rest => (rest.dropWhile Unicode.isBlank).head?
    | rest => rest.head?

/-- A sign or a range of a class. A minus sign in front of the closing bracket or of another minus
sign does not make a range. -/
def readClassRange (f : Flags) (text : List Char) : Option (CharSet × List Char) :=
  (readClassItem f text).bind fun (first, rest) =>
    let rest := f.skip rest
    let single := (classItemSet? f first).map fun s => (s, rest)
    match rest with
    | [] => none
    | '-' :: after =>
      if signAfterBlanks f after == some ']' || signAfterBlanks f after == some '-' then single
      else
        (readClassItem f (f.skip after)).bind fun (last, rest) =>
          match first, last with
          | .literal lo _, .literal hi _ =>
            if hi < lo || (!f.unicode && (127 < lo.toNat || 127 < hi.toNat)) then none
            else some (.range lo hi, rest)
          | _, _ => none
    | _ => single

/-- The start of a class after its opening bracket: whether it is negated, and the minus signs and
the closing bracket that stand for themselves there. -/
def openClass (f : Flags) (text : List Char) : Bool × CharSet × List Char :=
  let (negated, text) := match f.skip text with
    | '^' :: rest => (true, f.skip rest)
    | rest => (false, rest)
  match text with
  | '-' :: _ => (negated, .single '-', skipMinus text)
  | ']' :: rest => (negated, .single ']', f.skip rest)
  | _ => (negated, .empty, text)
where
  /-- Skips minus signs, and blanks after them where the flags allow. -/
  skipMinus : List Char → List Char
    | [] => []
    | c :: rest =>
      if c == '-' || (f.verbose && Unicode.isBlank c) then skipMinus rest else c :: rest

/-- Completes a combination that is waiting for its right side. -/
def closeOperand (f : Flags) (right : CharSet) : List Pending → CharSet × List Pending
  | .operand op left :: outer => (op.apply left (f.foldSet right), outer)
  | outer => (right, outer)

/-- Reads a class up to the bracket that closes it. The fuel is the length of the text. -/
def readClass (f : Flags) :
    Nat → List Pending → CharSet → List Char → Option (CharSet × List Char)
  | 0, _, _, _ => none
  | fuel + 1, pending, listed, text =>
    match f.skip text with
    | [] => none
    | '[' :: rest =>
      match readAsciiClass rest with
      | some (s, negated, rest) =>
        (finishSet f negated s).bind fun s => readClass f fuel pending (listed.union s) rest
      | none =>
        let (negated, first, rest) := openClass f rest
        readClass f fuel (.bracket listed negated :: pending) first rest
    | ']' :: rest =>
      match closeOperand f listed pending with
      | (s, .bracket outer negated :: pending) =>
        (finishSet f negated s).bind fun s =>
          if pending.isEmpty then some (s, rest)
          else readClass f fuel pending (outer.union s) rest
      | _ => none
    | '&' :: '&' :: rest => combine fuel pending listed .inter rest
    | '-' :: '-' :: rest => combine fuel pending listed .diff rest
    | '~' :: '~' :: rest => combine fuel pending listed .symmDiff rest
    | text =>
      (readClassRange f text).bind fun (s, rest) =>
        readClass f fuel pending (listed.union s) rest
where
  /-- Takes what is listed as the left side of a combination. -/
  combine (fuel : Nat) (pending : List Pending) (listed : CharSet) (op : SetOp)
      (rest : List Char) : Option (CharSet × List Char) :=
    let (left, pending) := closeOperand f listed pending
    readClass f fuel (.operand op (f.foldSet left) :: pending) .empty rest

end RecordFix.Regex
