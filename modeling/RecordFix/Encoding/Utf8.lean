import RecordFix.Encoding.Decoder

/-!
# UTF-8

A character takes one to four bytes. What cannot become a character, up to the first byte that does
not fit, is malformed as a whole. A byte that does not fit may start the next character.
-/

namespace RecordFix.Encoding

/-- A character of UTF-8 being read: how many bytes are missing, the bits so far, and the range for
the next byte. -/
structure Utf8 where
  missing : Nat := 0
  bits : Nat := 0
  lower : Nat := 0x80
  upper : Nat := 0xbf

namespace Utf8

/-- Takes the first byte of a character. -/
def first (b : Nat) : Utf8 × Decoded :=
  if b < 0x80 then ({}, [charOf b])
  else if b < 0xc2 then ({}, [none])
  else if b < 0xe0 then (⟨1, b - 0xc0, 0x80, 0xbf⟩, [])
  else if b < 0xf0 then
    (⟨2, b - 0xe0, if b = 0xe0 then 0xa0 else 0x80, if b = 0xed then 0x9f else 0xbf⟩, [])
  else if b < 0xf5 then
    (⟨3, b - 0xf0, if b = 0xf0 then 0x90 else 0x80, if b = 0xf4 then 0x8f else 0xbf⟩, [])
  else ({}, [none])

/-- Takes one more byte. -/
def step (s : Utf8) (byte : UInt8) : Utf8 × Decoded :=
  let b := byte.toNat
  match s.missing with
  | 0 => first b
  | n + 1 =>
    if s.lower ≤ b && b ≤ s.upper then
      let bits := s.bits * 64 + (b - 0x80)
      match n with
      | 0 => ({}, [charOf bits])
      | _ => (⟨n, bits, 0x80, 0xbf⟩, [])
    else
      let (next, out) := first b
      (next, none :: out)

/-- The end of the bytes. -/
def finish (s : Utf8) : Decoded := if s.missing = 0 then [] else [none]

/-- Decodes UTF-8. -/
def decode (bytes : List UInt8) : Decoded := run step finish {} bytes

/-- The text of bytes that are all well-formed. -/
def text? (bytes : List UInt8) : Option (List Char) := (decode bytes).mapM id

end Utf8

end RecordFix.Encoding
