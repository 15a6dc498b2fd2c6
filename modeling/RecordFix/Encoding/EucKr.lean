import RecordFix.Encoding.DoubleByte
import RecordFix.Encoding.Table.Hangul

/-!
# EUC-KR

Korean text in one or two bytes to a character, with all Hangul syllables.
-/

namespace RecordFix.Encoding

/-- EUC-KR with the syllables that the standard lacks. -/
def eucKr : DoubleByte where
  single := asciiChar
  leads b := 0x81 ≤ b && b ≤ 0xfe
  pair lead trail :=
    if 0x41 ≤ trail && trail ≤ 0xfe then
      (unifiedHangul.char? (lead - 0x81) (trail - 0x41)).map ([·])
    else none

end RecordFix.Encoding
