import RecordFix.Json.Number

/-!
# JSON tokens

A text is read character by character into tokens. Between tokens stand blanks. A literal or number
is the longest run of characters that are neither blank nor punctuation, so two of them never touch.
The state of the reader says what the next character is part of.
-/

namespace RecordFix.Json

/-- The units of a document. -/
inductive Token where
  | openArray
  | closeArray
  | openObject
  | closeObject
  | comma
  | colon
  | scalar (value : Json)
  | text (s : String)

namespace Token

/-- The blanks that may stand between tokens. -/
def isBlank (c : Char) : Bool := c == ' ' || c == '\t' || c == '\n' || c == '\r'

/-- The token that a punctuation character is. -/
def punctuation? (c : Char) : Option Token :=
  match c with
  | '[' => some .openArray
  | ']' => some .closeArray
  | '\x7b' => some .openObject
  | '\x7d' => some .closeObject
  | ',' => some .comma
  | ':' => some .colon
  | _ => none

/-- The literal or number that a run of characters writes. -/
def scalar? (run : List Char) : Option Token :=
  if run = ['n', 'u', 'l', 'l'] then some (.scalar .null)
  else if run = ['t', 'r', 'u', 'e'] then some (.scalar (.bool true))
  else if run = ['f', 'a', 'l', 's', 'e'] then some (.scalar (.bool false))
  else (Number.read? run).map fun n => .scalar (.number n)

/-- The character that a one-letter escape stands for. -/
def escaped? (c : Char) : Option Char :=
  match c with
  | '"' => some '"'
  | '\\' => some '\\'
  | '/' => some '/'
  | 'b' => some (Char.ofNat 8)
  | 'f' => some (Char.ofNat 12)
  | 'n' => some '\n'
  | 'r' => some '\r'
  | 't' => some '\t'
  | _ => none

/-- What the next character is part of. Characters read so far are kept in reverse. -/
inductive Mode where
  | between
  | run (seen : List Char)
  | quoted (seen : List Char)
  | escape (seen : List Char)
  | unicode (seen : List Char) (digits : Nat) (value : Nat)
  | lowStart (seen : List Char) (high : Nat)
  | lowEscape (seen : List Char) (high : Nat)
  | low (seen : List Char) (high : Nat) (digits : Nat) (value : Nat)

/-- The reader of tokens: its mode and the tokens so far, in reverse. -/
structure Reader where
  mode : Mode := .between
  done : List Token := []

/-- A character between tokens. -/
def Reader.start (done : List Token) (c : Char) : Reader :=
  if isBlank c then ⟨.between, done⟩
  else if c = '"' then ⟨.quoted [], done⟩
  else
    match punctuation? c with
    | some token => ⟨.between, token :: done⟩
    | none => ⟨.run [c], done⟩

/-- Whether a character ends a run. -/
def endsRun (c : Char) : Bool := isBlank c || c == '"' || (punctuation? c).isSome

/-- The code point of a pair of surrogates. -/
def joinSurrogates (high low : Nat) : Nat := 0x10000 + (high - 0xd800) * 0x400 + (low - 0xdc00)

/-- The mode after the four digits of an escape. A high surrogate must be followed by a low one. -/
def afterUnicode (seen : List Char) (value : Nat) : Option Mode :=
  if 0xd800 ≤ value && value < 0xdc00 then some (.lowStart seen value)
  else if 0xdc00 ≤ value && value < 0xe000 then none
  else some (.quoted (Char.ofNat value :: seen))

/-- Reads one more character. -/
def Reader.step (r : Reader) (c : Char) : Option Reader :=
  match r.mode with
  | .between => some (Reader.start r.done c)
  | .run seen =>
    if endsRun c then (scalar? seen.reverse).map fun token => Reader.start (token :: r.done) c
    else some ⟨.run (c :: seen), r.done⟩
  | .quoted seen =>
    if c = '"' then some ⟨.between, .text (.ofList seen.reverse) :: r.done⟩
    else if c = '\\' then some ⟨.escape seen, r.done⟩
    else if c.toNat < 0x20 then none
    else some ⟨.quoted (c :: seen), r.done⟩
  | .escape seen =>
    if c = 'u' then some ⟨.unicode seen 0 0, r.done⟩
    else (escaped? c).map fun e => ⟨.quoted (e :: seen), r.done⟩
  | .unicode seen digits value =>
    (Text.hexDigit? c).bind fun d =>
      let value := value * 16 + d
      if digits < 3 then some ⟨.unicode seen (digits + 1) value, r.done⟩
      else (afterUnicode seen value).map fun mode => ⟨mode, r.done⟩
  | .lowStart seen high => if c = '\\' then some ⟨.lowEscape seen high, r.done⟩ else none
  | .lowEscape seen high => if c = 'u' then some ⟨.low seen high 0 0, r.done⟩ else none
  | .low seen high digits value =>
    (Text.hexDigit? c).bind fun d =>
      let value := value * 16 + d
      if digits < 3 then some ⟨.low seen high (digits + 1) value, r.done⟩
      else if 0xdc00 ≤ value && value < 0xe000 then
        some ⟨.quoted (Char.ofNat (joinSurrogates high value) :: seen), r.done⟩
      else none

/-- The tokens at the end of the text; a string must have been closed. -/
def Reader.finish (r : Reader) : Option (List Token) :=
  match r.mode with
  | .between => some r.done.reverse
  | .run seen => (scalar? seen.reverse).map fun token => (token :: r.done).reverse
  | _ => none

end Token

/-- The tokens of a text. -/
def tokens? (text : List Char) : Option (List Token) :=
  (text.foldlM Token.Reader.step {}).bind Token.Reader.finish

end RecordFix.Json
