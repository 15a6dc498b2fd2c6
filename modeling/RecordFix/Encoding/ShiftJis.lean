import RecordFix.Encoding.DoubleByte
import RecordFix.Encoding.Table.JisX0208

/-!
# Shift_JIS

Two rows of JIS X 0208 share a lead byte. The leads leave a gap for the half-width Katakana, which
take one byte, and the rows between the last row of the standard and the first of the additions are
for private use.
-/

namespace RecordFix.Encoding

/-- The number of the cell that a pair of bytes addresses. -/
def shiftJisCell? (lead trail : Nat) : Option Nat :=
  let first := (lead - if lead < 0xa0 then 0x81 else 0xc1) * 188
  if 0x40 ≤ trail && trail ≤ 0x7e then some (first + trail - 0x40)
  else if 0x80 ≤ trail && trail ≤ 0xfc then some (first + trail - 0x41)
  else none

/-- The character of a cell. -/
def shiftJisChar? (cell : Nat) : Option Char :=
  if 8836 ≤ cell && cell ≤ 10715 then charOf (0xe000 + (cell - 8836)) else jisX0208.cell? cell

/-- Shift_JIS with the additional characters. -/
def shiftJis : DoubleByte where
  single b :=
    if b ≤ 0x80 then charOf b
    else if 0xa1 ≤ b && b ≤ 0xdf then halfwidthKatakana (b - 0xa1)
    else none
  leads b := (0x81 ≤ b && b ≤ 0x9f) || (0xe0 ≤ b && b ≤ 0xfc)
  pair lead trail := ((shiftJisCell? lead trail).bind shiftJisChar?).map ([·])

end RecordFix.Encoding
