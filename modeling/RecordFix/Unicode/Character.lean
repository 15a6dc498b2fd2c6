import RecordFix.Unicode.Binary
import RecordFix.Unicode.Category

/-!
# Classes of characters

What counts as blank, as a decimal digit and as part of a word, and what can be shown as it is.
-/

namespace RecordFix.Unicode

/-- White space: what is cut off by trimming and matched by the class of spaces. -/
def isBlank (c : Char) : Bool :=
  let n := c.toNat
  (9 ≤ n && n ≤ 13) || n == 0x20 || n == 0x85 || n == 0xa0 || n == 0x1680 ||
    (0x2000 ≤ n && n ≤ 0x200a) || n == 0x2028 || n == 0x2029 || n == 0x202f || n == 0x205f ||
    n == 0x3000

/-- White space as intervals. -/
def blanks : Ranges :=
  [(9, 13), (0x20, 0x20), (0x85, 0x85), (0xa0, 0xa0), (0x1680, 0x1680), (0x2000, 0x200a),
   (0x2028, 0x2029), (0x202f, 0x202f), (0x205f, 0x205f), (0x3000, 0x3000)]

/-- Decimal digits of any script. -/
def isDecimal (c : Char) : Bool :=
  if c.toNat < 128 then c.isDigit else decimalNumber.contains c.toNat

/-- Letters of any script, in the wide sense that takes in letter numbers and some marks. -/
def isAlphabetic (c : Char) : Bool :=
  if c.toNat < 128 then c.isAlpha else alphabetic.contains c.toNat

/-- Numbers of any script: digits, letter numbers and other numbers. -/
def isNumeric (c : Char) : Bool :=
  if c.toNat < 128 then c.isDigit
  else decimalNumber.contains c.toNat || letterNumber.contains c.toNat ||
    otherNumber.contains c.toNat

/-- Word characters: letters, marks, decimal digits, connectors and the two joiners. -/
def word : CharSet :=
  [nonspacingMark, spacingMark, enclosingMark, decimalNumber, connectorPunctuation,
    [(0x200c, 0x200d)]].foldl .insertAll (.ofRanges alphabetic)

/-- Characters that leave a mark of their own: no control characters, no blanks but the space,
nothing that is unassigned or combines with the character before it. -/
def isShown (c : Char) : Bool :=
  if c.toNat < 128 then 0x20 ≤ c.toNat && c.toNat < 0x7f
  else
    assigned.holds c.toNat && !graphemeExtend.contains c.toNat &&
      !([control, format, privateUse, spaceSeparator, lineSeparator, paragraphSeparator].any
        fun set => set.contains c.toNat)

end RecordFix.Unicode
