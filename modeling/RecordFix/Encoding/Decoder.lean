/-!
# Decoding bytes

A decoder reads bytes one by one, in a state, and yields characters. Malformed bytes yield `none`,
for which the replacement character is shown.
-/

namespace RecordFix.Encoding

/-- Characters, with `none` for what is malformed. -/
abbrev Decoded := List (Option Char)

/-- Decodes bytes from a state on; `finish` says what the end of the bytes yields. -/
def run {σ : Type} (step : σ → UInt8 → σ × Decoded) (finish : σ → Decoded) :
    σ → List UInt8 → Decoded
  | s, [] => finish s
  | s, b :: rest =>
    let (next, out) := step s b
    out ++ run step finish next rest

/-- The character that is shown for what is malformed. -/
def replacementChar : Char := '\ufffd'

/-- The text of what has been decoded. -/
def shown (decoded : Decoded) : List Char := decoded.map fun c => c.getD replacementChar

/-- The character of a code point, if there is one. -/
def charOf (n : Nat) : Option Char :=
  if n.isValidChar then some (Char.ofNat n) else none

end RecordFix.Encoding
