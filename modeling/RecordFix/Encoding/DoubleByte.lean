import RecordFix.Encoding.Decoder

/-!
# Encodings with one or two bytes to a character

Some bytes are characters, and others lead a pair. Where a pair means nothing, an ASCII byte after
the lead still stands for itself.
-/

namespace RecordFix.Encoding

/-- What single bytes mean, which bytes lead a pair, and what pairs mean: mostly one character. -/
structure DoubleByte where
  single : Nat → Option Char
  leads : Nat → Bool
  pair : Nat → Nat → Option (List Char)

namespace DoubleByte

/-- Takes one more byte after a lead or after nothing. -/
def step (e : DoubleByte) (lead : Option Nat) (byte : UInt8) : Option Nat × Decoded :=
  let b := byte.toNat
  match lead with
  | none => if e.leads b then (some b, []) else (none, [e.single b])
  | some l =>
    match e.pair l b with
    | some chars => (none, chars.map some)
    | none => (none, if b < 0x80 then [none, charOf b] else [none])

/-- The end of the bytes. -/
def finish (lead : Option Nat) : Decoded := if lead.isSome then [none] else []

/-- Decodes bytes. -/
def decode (e : DoubleByte) (bytes : List UInt8) : Decoded := run e.step finish none bytes

end DoubleByte

/-- A byte that stands for itself if it is ASCII. -/
def asciiChar (b : Nat) : Option Char := if b < 0x80 then charOf b else none

/-- The half-width Katakana in the order of their code points. -/
def halfwidthKatakana (n : Nat) : Option Char := charOf (0xff61 + n)

end RecordFix.Encoding
