import RecordFix.Encoding.DoubleByte
import RecordFix.Encoding.Table.Big5

/-!
# Big5

Traditional Chinese text in one or two bytes to a character. Four pairs stand for a letter and the
mark over it.
-/

namespace RecordFix.Encoding

/-- What a pair of bytes means that is in the table. -/
def big5Char? (lead trail : Nat) : Option Char :=
  if 0x40 ≤ trail && trail ≤ 0x7e then big5Characters.char? (lead - 0x81) (trail - 0x40)
  else if 0xa1 ≤ trail && trail ≤ 0xfe then big5Characters.char? (lead - 0x81) (trail - 0x62)
  else none

/-- Big5 with the Hong Kong supplement. -/
def big5 : DoubleByte where
  single := asciiChar
  leads b := 0x81 ≤ b && b ≤ 0xfe
  pair
    | 0x88, 0x62 => some ['Ê', '\u0304']
    | 0x88, 0x64 => some ['Ê', '\u030c']
    | 0x88, 0xa3 => some ['ê', '\u0304']
    | 0x88, 0xa5 => some ['ê', '\u030c']
    | lead, trail => (big5Char? lead trail).map ([·])

end RecordFix.Encoding
