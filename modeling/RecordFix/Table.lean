/-!
# Separated text

Text in rows of cells. Cells stand between separators and a row ends with a carriage return or a
line feed; there are no quotes. Empty lines are no rows. A byte order mark at the start does not
count.
-/

namespace RecordFix.Table

/-- Whether the character ends a row. -/
def endsRow (c : Char) : Bool := c == '\r' || c == '\n'

/-- The row being read: the complete cells and the characters of the last cell, both in reverse. -/
structure Row where
  cells : List String := []
  cell : List Char := []

namespace Row

/-- The cells of the row. -/
def close (r : Row) : List String := (String.ofList r.cell.reverse :: r.cells).reverse

/-- Takes a character that does not end the row. -/
def add (separator : Char) (r : Row) (c : Char) : Row :=
  if c = separator then ⟨String.ofList r.cell.reverse :: r.cells, []⟩ else ⟨r.cells, c :: r.cell⟩

end Row

/-- The rows of the rest of a text, where a row may have been begun. -/
def rowsFrom (separator : Char) : Option Row → List Char → List (List String)
  | none, [] => []
  | some r, [] => [r.close]
  | none, c :: rest =>
    if endsRow c then rowsFrom separator none rest
    else rowsFrom separator (some (Row.add separator {} c)) rest
  | some r, c :: rest =>
    if endsRow c && c != separator then r.close :: rowsFrom separator none rest
    else rowsFrom separator (some (r.add separator c)) rest

/-- The rows of a text. -/
def rows (separator : Char) (text : List Char) : List (List String) :=
  match text with
  | '\ufeff' :: rest => rowsFrom separator none rest
  | _ => rowsFrom separator none text

end RecordFix.Table
