import RecordFix.Encoding.DoubleByte
import RecordFix.Encoding.Table.JisX0208
import RecordFix.Encoding.Table.JisX0212

/-!
# EUC-JP

Two bytes above 0xa0 are the row and the cell of a character of JIS X 0208. The byte 0x8e goes
before a half-width Katakana, and 0x8f before the two bytes of a character of JIS X 0212.
-/

namespace RecordFix.Encoding

/-- A character of EUC-JP being read: the byte before, and whether the table of rare characters is
meant. -/
structure EucJp where
  lead : Option Nat := none
  rare : Bool := false

namespace EucJp

/-- Whether the byte can be a row or a cell. -/
def inTable (b : Nat) : Bool := 0xa1 ≤ b && b ≤ 0xfe

/-- The character in a row and cell. -/
def char? (rare : Bool) (row cell : Nat) : Option Char :=
  if inTable row && inTable cell then
    (if rare then jisX0212 else jisX0208).char? (row - 0xa1) (cell - 0xa1)
  else none

/-- Takes one more byte. -/
def step (s : EucJp) (byte : UInt8) : EucJp × Decoded :=
  let b := byte.toNat
  match s.lead with
  | none =>
    if b = 0x8e || b = 0x8f || inTable b then ({ lead := some b }, []) else ({}, [asciiChar b])
  | some lead =>
    if lead = 0x8e && 0xa1 ≤ b && b ≤ 0xdf then ({}, [halfwidthKatakana (b - 0xa1)])
    else if lead = 0x8f && inTable b then (⟨some b, true⟩, [])
    else
      match char? s.rare lead b with
      | some c => ({}, [some c])
      | none => ({}, if b < 0x80 then [none, charOf b] else [none])

/-- The end of the bytes. -/
def finish (s : EucJp) : Decoded := if s.lead.isSome then [none] else []

/-- Decodes EUC-JP. -/
def decode (bytes : List UInt8) : Decoded := run step finish {} bytes

end EucJp

end RecordFix.Encoding
