import RecordFix.Encoding.Decoder

/-!
# UTF-16

Two bytes make a unit, and a character takes one unit or a pair of surrogates. A surrogate without
its other half is malformed, and so is what is left over at the end.
-/

namespace RecordFix.Encoding

/-- A character of UTF-16 being read: the first byte of a unit, and the first half of a pair. -/
structure Utf16 where
  byte : Option Nat := none
  high : Option Nat := none

namespace Utf16

/-- Takes a unit that no first half of a pair precedes. -/
def single (unit : Nat) : Utf16 × Decoded :=
  if 0xd800 ≤ unit && unit < 0xdc00 then (⟨none, some unit⟩, [])
  else ({}, [charOf unit])

/-- Takes a unit. -/
def unit (high : Option Nat) (u : Nat) : Utf16 × Decoded :=
  match high with
  | none => single u
  | some h =>
    if 0xdc00 ≤ u && u < 0xe000 then
      ({}, [charOf (0x10000 + (h - 0xd800) * 0x400 + (u - 0xdc00))])
    else
      let (next, out) := single u
      (next, none :: out)

/-- Takes one more byte; in big-endian text the first byte of a unit counts for more. -/
def step (bigEndian : Bool) (s : Utf16) (byte : UInt8) : Utf16 × Decoded :=
  let b := byte.toNat
  match s.byte with
  | none => ({ s with byte := some b }, [])
  | some a => unit s.high (if bigEndian then a * 256 + b else b * 256 + a)

/-- The end of the bytes. -/
def finish (s : Utf16) : Decoded := if s.byte.isSome || s.high.isSome then [none] else []

/-- Decodes UTF-16. -/
def decode (bigEndian : Bool) (bytes : List UInt8) : Decoded :=
  run (step bigEndian) finish {} bytes

end Utf16

end RecordFix.Encoding
