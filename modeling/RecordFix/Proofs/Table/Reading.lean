import Mathlib.Data.List.Induction
import RecordFix.MapFile

/-!
# Reading separated text

Rows are written with separators between their cells and with a line feed, a carriage return or both
after each of them. Reading gives the rows back, but not those without cells, which leave an empty
line. In the lookup table that the rows hold, a key has the place of the first row with it and the
text of the last.
-/

namespace RecordFix

namespace Table

/-! ## Written rows -/

/-- What stands after a row. -/
inductive RowEnd
  | lineFeed
  | carriageReturn
  | both

/-- The characters of a row end. -/
def RowEnd.text : RowEnd → List Char
  | .lineFeed => ['\n']
  | .carriageReturn => ['\r']
  | .both => ['\r', '\n']

/-- The cells of a row with separators between them. -/
def rowText (separator : Char) (row : List String) : List Char :=
  [separator].intercalate (row.map String.toList)

/-- The texts in which rows are written. The rows may end differently, and the last one need not
end. -/
inductive Written (separator : Char) : List (List String) → List Char → Prop
  | nil : Written separator [] []
  | last (row : List String) : Written separator [row] (rowText separator row)
  | cons (row : List String) (e : RowEnd) {rows : List (List String)} {text : List Char} :
      Written separator rows text →
      Written separator (row :: rows) (rowText separator row ++ e.text ++ text)

/-- Neither a separator nor a row end is in the cell. -/
def Plain (separator : Char) (cell : String) : Prop :=
  separator ∉ cell.toList ∧ '\r' ∉ cell.toList ∧ '\n' ∉ cell.toList

instance (separator : Char) (cell : String) : Decidable (Plain separator cell) :=
  inferInstanceAs (Decidable (_ ∧ _ ∧ _))

variable {separator : Char}

theorem rowText_cons_cons (cell next : String) (cells : List String) :
    rowText separator (cell :: next :: cells) =
      cell.toList ++ separator :: rowText separator (next :: cells) := by
  rw [rowText, List.map_cons, List.map_cons, List.intercalate_cons_cons, List.append_assoc]
  rfl

/-- A row leaves no text if it has no cells or a single empty one. -/
theorem rowText_eq_nil_iff {row : List String} :
    rowText separator row = [] ↔ row = [] ∨ row = [""] := by
  match row with
  | [] => simp [rowText]
  | [cell] => simp [rowText]
  | cell :: next :: cells => simp [rowText_cons_cons]

theorem mem_rowText {row : List String} {c : Char} (h : c ∈ rowText separator row) :
    c = separator ∨ ∃ cell ∈ row, c ∈ cell.toList := by
  match row with
  | [] => simp [rowText] at h
  | [cell] => exact .inr ⟨cell, List.mem_cons_self, by simpa [rowText] using h⟩
  | cell :: next :: cells =>
    rw [rowText_cons_cons, List.mem_append, List.mem_cons] at h
    rcases h with hcell | hsep | hrest
    · exact .inr ⟨cell, List.mem_cons_self, hcell⟩
    · exact .inl hsep
    · exact (mem_rowText hrest).imp_right fun ⟨other, hmem, hc⟩ =>
        ⟨other, List.mem_cons_of_mem cell hmem, hc⟩

/-- No row ends inside the text of a row with plain cells. -/
theorem endsRow_of_mem_rowText {row : List String} (hcr : separator ≠ '\r')
    (hlf : separator ≠ '\n') (hplain : ∀ cell ∈ row, Plain separator cell) :
    ∀ c ∈ rowText separator row, endsRow c = false := by
  intro c hc
  suffices c ≠ '\r' ∧ c ≠ '\n' by simpa [endsRow] using this
  rcases mem_rowText hc with rfl | ⟨cell, hmem, hcell⟩
  · exact ⟨hcr, hlf⟩
  · obtain ⟨-, hnocr, hnolf⟩ := hplain cell hmem
    exact ⟨fun heq => hnocr (heq ▸ hcell), fun heq => hnolf (heq ▸ hcell)⟩

/-! ## Reading one row -/

/-- The characters of a cell are added to the cell that is being read. -/
theorem Row.foldl_add_cell {cell : List Char} (h : separator ∉ cell) (r : Row) :
    cell.foldl (Row.add separator) r = ⟨r.cells, cell.reverse ++ r.cell⟩ := by
  induction cell generalizing r with
  | nil => rfl
  | cons c cs ih =>
    have hc : c ≠ separator := fun heq => h (heq ▸ List.mem_cons_self)
    have hcs : separator ∉ cs := fun hmem => h (List.mem_cons_of_mem c hmem)
    rw [List.foldl_cons, Row.add, if_neg hc, ih hcs, List.reverse_cons, List.append_assoc]
    rfl

/-- The text of a row adds its cells to the complete ones. -/
theorem Row.close_foldl_add_rowText {cell : String} {cells : List String}
    (h : ∀ c ∈ cell :: cells, separator ∉ c.toList) (done : List String) :
    ((rowText separator (cell :: cells)).foldl (Row.add separator) ⟨done, []⟩).close =
      done.reverse ++ cell :: cells := by
  induction cells generalizing cell done with
  | nil =>
    have hcell : separator ∉ cell.toList := h cell List.mem_cons_self
    have htext : rowText separator [cell] = cell.toList := List.intercalate_singleton
    rw [htext, Row.foldl_add_cell hcell, Row.close]
    simp
  | cons next cells ih =>
    obtain ⟨hcell, hcells⟩ := List.forall_mem_cons.mp h
    rw [rowText_cons_cons, List.foldl_append, Row.foldl_add_cell hcell, List.foldl_cons, Row.add,
      if_pos rfl, ih hcells]
    simp

/-- Characters that end no row belong to the row that is being read. -/
theorem rowsFrom_some_append {cs : List Char} (h : ∀ c ∈ cs, endsRow c = false) (r : Row)
    (rest : List Char) :
    rowsFrom separator (some r) (cs ++ rest) =
      rowsFrom separator (some (cs.foldl (Row.add separator) r)) rest := by
  induction cs generalizing r with
  | nil => rfl
  | cons c cs ih =>
    obtain ⟨hc, hcs⟩ := List.forall_mem_cons.mp h
    rw [List.cons_append, rowsFrom, hc, Bool.false_and, if_neg Bool.false_ne_true, ih hcs,
      List.foldl_cons]

/-- The first of such characters begins a row. -/
theorem rowsFrom_none_append {cs : List Char} (h : ∀ c ∈ cs, endsRow c = false) (hne : cs ≠ [])
    (rest : List Char) :
    rowsFrom separator none (cs ++ rest) =
      rowsFrom separator (some (cs.foldl (Row.add separator) {})) rest := by
  cases cs with
  | nil => exact absurd rfl hne
  | cons c cs =>
    obtain ⟨hc, hcs⟩ := List.forall_mem_cons.mp h
    rw [List.cons_append, rowsFrom, hc, if_neg Bool.false_ne_true, rowsFrom_some_append hcs,
      List.foldl_cons]

/-- A row end is nothing where no row has begun; so a line feed after a carriage return ends no
further row. -/
theorem rowsFrom_none_end (e : RowEnd) (rest : List Char) :
    rowsFrom separator none (e.text ++ rest) = rowsFrom separator none rest := by
  cases e <;> rfl

theorem rowsFrom_some_end (hcr : separator ≠ '\r') (hlf : separator ≠ '\n') (r : Row) (e : RowEnd)
    (rest : List Char) :
    rowsFrom separator (some r) (e.text ++ rest) = r.close :: rowsFrom separator none rest := by
  cases e <;> simp [RowEnd.text, rowsFrom, endsRow, hcr.symm, hlf.symm]

/-- After the text of a row that is not blank, the row is there to be closed. -/
theorem exists_row_of_rowText {row : List String} (hcr : separator ≠ '\r') (hlf : separator ≠ '\n')
    (hplain : ∀ cell ∈ row, Plain separator cell) (hne : row ≠ []) (hempty : row ≠ [""]) :
    ∃ r : Row, r.close = row ∧ ∀ rest, rowsFrom separator none (rowText separator row ++ rest) =
      rowsFrom separator (some r) rest := by
  have htext : rowText separator row ≠ [] := fun h => (rowText_eq_nil_iff.mp h).elim hne hempty
  refine ⟨(rowText separator row).foldl (Row.add separator) {}, ?_,
    rowsFrom_none_append (endsRow_of_mem_rowText hcr hlf hplain) htext⟩
  obtain ⟨cell, cells, rfl⟩ := List.exists_cons_of_ne_nil hne
  exact Row.close_foldl_add_rowText (fun c hc => (hplain c hc).1) []

/-! ## Reading all rows -/

/-- Of written rows those that have cells are read. -/
theorem rowsFrom_of_written {rows : List (List String)} {text : List Char}
    (hcr : separator ≠ '\r') (hlf : separator ≠ '\n')
    (hplain : ∀ row ∈ rows, ∀ cell ∈ row, Plain separator cell) (hempty : [""] ∉ rows)
    (hwritten : Written separator rows text) :
    rowsFrom separator none text = rows.filter fun row => !row.isEmpty := by
  induction hwritten with
  | nil => rfl
  | last row =>
    by_cases hne : row = []
    · subst hne
      rfl
    · obtain ⟨r, hclose, hread⟩ := exists_row_of_rowText hcr hlf
        (hplain row List.mem_cons_self) hne (by simpa [eq_comm] using hempty)
      have hlast : rowsFrom separator none (rowText separator row) = [r.close] := by
        rw [← List.append_nil (rowText separator row), hread]
        rfl
      rw [hlast, hclose]
      simp [hne]
  | @cons row e rows text _ ih =>
    obtain ⟨hrow, hrows⟩ := List.forall_mem_cons.mp hplain
    obtain ⟨hsingle, hothers⟩ := List.ne_and_not_mem_of_not_mem_cons hempty
    rw [List.append_assoc]
    by_cases hne : row = []
    · subst hne
      exact (rowsFrom_none_end e text).trans (ih hrows hothers)
    · obtain ⟨r, hclose, hread⟩ := exists_row_of_rowText hcr hlf hrow hne hsingle.symm
      rw [hread, rowsFrom_some_end hcr hlf, hclose, ih hrows hothers]
      simp [hne]

/-- Without a byte order mark nothing is left out before the first row. -/
theorem rows_of_head?_ne {text : List Char} (h : text.head? ≠ some '\ufeff') :
    rows separator text = rowsFrom separator none text := by
  unfold rows
  split
  · exact absurd rfl h
  · rfl

end Table

namespace Entries

variable {α : Type}

theorem ofList_concat (es : List (String × α)) (name : String) (v : α) :
    ofList (es ++ [(name, v)]) = put (ofList es) name v := by
  rw [ofList, List.foldl_append]
  rfl

/-- Names have the order of their first occurrence. -/
theorem names_ofList (es : List (String × α)) :
    names (ofList es) = (es.map (·.1)).eraseDups := by
  induction es using List.reverseRecOn with
  | nil => rfl
  | append_singleton es e ih =>
    obtain ⟨name, v⟩ := e
    have hmem : name ∈ names (ofList es) ↔ name ∈ es.map (·.1) := by rw [ih, List.mem_eraseDups]
    rw [ofList_concat, List.map_append, List.eraseDups_append, ← ih]
    by_cases hname : name ∈ es.map (·.1)
    · obtain ⟨w, hw⟩ := Option.ne_none_iff_exists'.mp
        (fun hnone => get?_eq_none_iff.mp hnone (hmem.mpr hname))
      rw [names_put_of_get?_eq hw]
      simp [List.removeAll, hname]
    · rw [put_of_notMem_names (mt hmem.mp hname), names, List.map_append]
      simp [List.removeAll, hname, names, List.eraseDups_cons]

/-- A name has the value of its last occurrence. -/
theorem get?_ofList (es : List (String × α)) (name : String) :
    get? (ofList es) name = get? es.reverse name := by
  induction es using List.reverseRecOn with
  | nil => rfl
  | append_singleton es e ih =>
    obtain ⟨n, v⟩ := e
    rw [ofList_concat, List.reverse_concat, get?_cons]
    by_cases hn : n = name
    · rw [hn, get?_put_self, if_pos rfl]
    · rw [get?_put_of_ne (Ne.symm hn), if_neg hn, ih]

end Entries

namespace MapFormat

/-- The key in a row that has both columns. -/
def keyIn? (f : MapFormat) (row : List String) : Option String :=
  if f.valueColumn < row.length then row[f.keyColumn]? else none

/-- The text in a row that has both columns and the key in one. -/
def textIn? (f : MapFormat) (key : String) (row : List String) : Option String :=
  if row[f.keyColumn]? = some key then row[f.valueColumn]? else none

theorem map_entry?_eq_keyIn? (f : MapFormat) (row : List String) :
    Option.map (·.1) ( f.entry? row) = f.keyIn? row := by
  rw [keyIn?, entry?]
  by_cases hlt : f.valueColumn < row.length
  · rw [if_pos hlt, List.getElem?_eq_getElem hlt]
    cases row[f.keyColumn]? <;> rfl
  · rw [if_neg hlt, List.getElem?_eq_none (Nat.le_of_not_lt hlt)]
    cases row[f.keyColumn]? <;> rfl

theorem get?_filterMap_entry? (f : MapFormat) (rows : List (List String)) (key : String) :
    Entries.get? (rows.filterMap f.entry?) key = rows.findSome? (f.textIn? key) := by
  induction rows with
  | nil => rfl
  | cons row rows ih =>
    rw [List.findSome?_cons, textIn?]
    cases hkey : row[f.keyColumn]? with
    | none => simp [hkey, entry?, ih]
    | some k =>
      cases htext : row[f.valueColumn]? with
      | none => simp [hkey, htext, entry?, ih]
      | some t =>
        rw [List.filterMap_cons_some (b := (k, t)) (by simp [hkey, htext, entry?]),
          Entries.get?_cons, ih]
        by_cases hk : k = key <;> simp [hk]

/-- Rows without cells hold nothing. -/
theorem filterMap_entry?_filter (f : MapFormat) (rows : List (List String)) :
    (rows.filter fun row => !row.isEmpty).filterMap f.entry? = rows.filterMap f.entry? := by
  rw [List.filterMap_filter]
  congr 1
  funext row
  cases row <;> simp [ entry?]

theorem parse_eq_ok {f : MapFormat} (h : f.separator.toNat < 0x80) (text : List Char) :
    f.parse text =
      .ok (Entries.ofList ((Table.rows f.separator text).filterMap f.entry?)) := by
  rw [parse, check, if_pos h]
  rfl

/-- Written rows are read as the table of the rows that have both columns: a key has the place of
the first such row with it and the text of the last. -/
theorem parse_written (f : MapFormat) {rows : List (List String)} {text : List Char}
    (hascii : f.separator.toNat < 0x80) (hcr : f.separator ≠ '\r') (hlf : f.separator ≠ '\n')
    (hplain : ∀ row ∈ rows, ∀ cell ∈ row, Table.Plain f.separator cell) (hempty : [""] ∉ rows)
    (hwritten : Table.Written f.separator rows text) (hmark : text.head? ≠ some '\ufeff') :
    ∃ m : Mapping, f.parse text = .ok m ∧
      Entries.names m = (rows.filterMap f.keyIn?).eraseDups ∧
      ∀ key, Entries.get? m key = rows.reverse.findSome? (f.textIn? key) := by
  have hread : f.parse text = .ok (Entries.ofList (rows.filterMap f.entry?)) := by
    rw [parse_eq_ok hascii, Table.rows_of_head?_ne hmark,
      Table.rowsFrom_of_written hcr hlf hplain hempty hwritten, filterMap_entry?_filter]
  refine ⟨_, hread, ?_, ?_⟩
  · rw [Entries.names_ofList, List.map_filterMap]
    simp only [map_entry?_eq_keyIn?]
  · intro key
    rw [Entries.get?_ofList, ← List.filterMap_reverse, get?_filterMap_entry?]

/-- A key that comes again, a row without cells, one that is too short, quotes and an empty cell,
with all three row ends and none after the last row. -/
theorem parse_written_greetings :
    let f : MapFormat := { separator := ',', keyColumn := 1, valueColumn := 0 }
    let rows :=
      [["Moin", "de"], [], ["short"], ["\"Salut\"", "fr", "x"], ["", "en"], ["Tach", "de"]]
    let text := "Moin,de\r\n\rshort\n\"Salut\",fr,x\r,en\nTach,de".toList
    Table.Written f.separator rows text ∧
      (∀ row ∈ rows, ∀ cell ∈ row, Table.Plain f.separator cell) ∧
      ∃ m : Mapping, f.parse text = .ok m ∧ Entries.names m = ["de", "fr", "en"] ∧
        Entries.get? m "de" = some "Tach" ∧ Entries.get? m "fr" = some "\"Salut\"" ∧
        Entries.get? m "en" = some "" ∧ Entries.get? m "it" = none := by
  intro f rows text
  have hwritten : Table.Written f.separator rows text :=
    .cons _ .both (.cons [] .carriageReturn (.cons _ .lineFeed (.cons _ .carriageReturn
      (.cons _ .lineFeed (.last ["Tach", "de"])))))
  have hplain : ∀ row ∈ rows, ∀ cell ∈ row, Table.Plain f.separator cell := by decide
  obtain ⟨m, hparse, hnames, htexts⟩ := parse_written f (by decide) (by decide) (by decide) hplain
    (by decide) hwritten (by decide)
  exact ⟨hwritten, hplain, m, hparse, hnames.trans (by decide), (htexts "de").trans (by decide),
    (htexts "fr").trans (by decide), (htexts "en").trans (by decide),
    (htexts "it").trans (by decide)⟩

end MapFormat

end RecordFix
