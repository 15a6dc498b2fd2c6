import RecordFix.Encoding.DoubleByte
import RecordFix.Encoding.Table.JisX0208

/-!
# ISO-2022-JP

Japanese text in bytes of seven bits. Escape sequences switch between ASCII, its Japanese variant,
the half-width Katakana and the two-byte characters of JIS X 0208. A sequence right after another
one, with no character between them, is malformed but still switches.
-/

namespace RecordFix.Encoding

/-- What the bytes mean until the next escape sequence. -/
inductive Iso2022Jp.Charset where
  | ascii
  | roman
  | katakana
  | kanji

/-- Where in a character or an escape sequence the next byte stands. -/
inductive Iso2022Jp.Place where
  | start
  | cell (row : Nat)
  | escape
  | escapeAfter (intermediate : Nat)

/-- Text of ISO-2022-JP being read. `switched` holds right after an escape sequence. -/
structure Iso2022Jp where
  charset : Iso2022Jp.Charset := .ascii
  place : Iso2022Jp.Place := .start
  switched : Bool := false

namespace Iso2022Jp

/-- Whether the byte is a row or a cell of the table. -/
def inTable (b : Nat) : Bool := 0x21 ≤ b && b ≤ 0x7e

/-- The character of one byte in the character sets that take one. -/
def single (charset : Charset) (b : Nat) : Option Char :=
  match charset with
  | .katakana => if 0x21 ≤ b && b ≤ 0x5f then halfwidthKatakana (b - 0x21) else none
  | .roman =>
    if b = 0x5c then some '¥' else if b = 0x7e then some '‾'
    else if b = 0x0e || b = 0x0f then none else asciiChar b
  | _ => if b = 0x0e || b = 0x0f then none else asciiChar b

/-- Takes a byte where a character or an escape sequence begins. -/
def first (s : Iso2022Jp) (b : Nat) : Iso2022Jp × Decoded :=
  if b = 0x1b then ({ s with place := .escape }, [])
  else
    match s.charset with
    | .kanji => if inTable b then ({ s with place := .cell b, switched := false }, [])
      else (⟨.kanji, .start, false⟩, [none])
    | charset => (⟨charset, .start, false⟩, [single charset b])

/-- Takes a byte outside escape sequences. -/
def plain (s : Iso2022Jp) (b : Nat) : Iso2022Jp × Decoded :=
  match s.place with
  | .cell row =>
    if b = 0x1b then ({ s with place := .escape }, [none])
    else
      ({ s with place := .start },
        [if inTable b then jisX0208.char? (row - 0x21) (b - 0x21) else none])
  | _ => first s b

/-- The character set that the last two bytes of an escape sequence choose. -/
def chosen? : Nat → Nat → Option Charset
  | 0x28, 0x42 => some .ascii
  | 0x28, 0x4a => some .roman
  | 0x28, 0x49 => some .katakana
  | 0x24, 0x40 => some .kanji
  | 0x24, 0x42 => some .kanji
  | _, _ => none

/-- Takes one more byte. An escape sequence that chooses nothing is malformed, and the bytes after
its first one are read as text. -/
def step (s : Iso2022Jp) (byte : UInt8) : Iso2022Jp × Decoded :=
  let b := byte.toNat
  match s.place with
  | .escape =>
    if b = 0x24 || b = 0x28 then ({ s with place := .escapeAfter b }, [])
    else
      let (next, out) := first ⟨s.charset, .start, false⟩ b
      (next, none :: out)
  | .escapeAfter a =>
    match chosen? a b with
    | some charset => (⟨charset, .start, true⟩, if s.switched then [none] else [])
    | none =>
      let (next, out) := first ⟨s.charset, .start, false⟩ a
      let (last, more) := plain next b
      (last, none :: (out ++ more))
  | _ => plain s b

/-- The end of the bytes. -/
def finish (s : Iso2022Jp) : Decoded :=
  match s.place with
  | .start => []
  | .cell _ => [none]
  | .escape => [none]
  | .escapeAfter a =>
    match s.charset with
    | .kanji => [none, none]
    | charset => [none, single charset a]

/-- Decodes ISO-2022-JP. -/
def decode (bytes : List UInt8) : Decoded := run step finish {} bytes

end Iso2022Jp

end RecordFix.Encoding
