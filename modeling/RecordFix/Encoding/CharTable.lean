/-!
# Tables of characters

Standards print their characters in rows of one length, and an encoding numbers the cells row by
row. A blank stands in a cell without a character.
-/

namespace RecordFix.Encoding

/-- Rows of characters. A row may end early: the cells after its end are blank. -/
structure CharTable where
  width : Nat
  rows : Array (Array Char)

namespace CharTable

/-- The table of rows that are written as text. -/
def ofRows (width : Nat) (rows : List String) : CharTable :=
  ⟨width, (rows.map fun row => row.toList.toArray).toArray⟩

/-- The character in a cell, both counted from zero. -/
def char? (t : CharTable) (row cell : Nat) : Option Char :=
  ((t.rows[row]?).bind fun chars => chars[cell]?).filter (· != ' ')

/-- The character in the cell of this number. -/
def cell? (t : CharTable) (n : Nat) : Option Char := t.char? (n / t.width) (n % t.width)

end CharTable

end RecordFix.Encoding
