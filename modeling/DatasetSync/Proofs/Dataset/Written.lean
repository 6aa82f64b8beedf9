/-
A dataset that is written is read back.

Written with every field in quotes, a dataset can hold any texts at all, and the header
and the missing cells come back as well: names that are all different and none of them
blank stay as they are, and any of the words for a missing value stands for one.  A row
of one missing cell is no empty line, because a file with one column has none.
-/
import DatasetSync.Proofs.Csv.Quoted
import DatasetSync.Proofs.Dataset.Admitted
import DatasetSync.Proofs.Text.Utf8

namespace DatasetSync.Dataset

/-! ### Cells and rows as they are written -/

/-- What may be written for a cell: its own text, if that is no word for a missing value, and such a
word if it is missing; blanks around it make no difference. -/
inductive Spells : Option String → String → Prop
  | present {text : String} (h : Text.trim text ∉ missingTokens) : Spells (some text) text
  | missing {text : String} (h : Text.trim text ∈ missingTokens) : Spells none text

/-- What may be written for a row: one field for each of its cells. -/
def SpellsRow (row : List (Option String)) (fields : List (List UInt8)) : Prop :=
  ∃ texts, fields = texts.map Text.Utf8.encode ∧ List.Forall₂ Spells row texts

/-- The words for a missing value have no blanks around them. -/
theorem spells_of_mem_missingTokens {text : String} (h : text ∈ missingTokens) :
    Spells none text := by
  have htrimmed : ∀ token ∈ missingTokens, Text.trim token ∈ missingTokens := by
    decide +kernel
  exact .missing (htrimmed text h)

theorem cellOf_of_spells {cell : Option String} {text : String} (h : Spells cell text) :
    cellOf text = cell := by
  cases h with
  | present h => simp [cellOf, isMissing, h]
  | missing h => simp [cellOf, isMissing, h]

/-! ### Records of written rows -/

theorem decodes_of_encode {record : Csv.Record} {texts : List String}
    (h : record.fields = texts.map Text.Utf8.encode) : Decodes record texts := by
  rw [Decodes, h, List.forall₂_map_left_iff, List.forall₂_same]
  exact fun text _ => Text.Utf8.decode_encode text

theorem fieldsOf_of_encode {record : Csv.Record} {texts : List String}
    (h : record.fields = texts.map Text.Utf8.encode) (index : Nat) :
    fieldsOf index record = .ok texts :=
  fieldsOf_eq_ok_iff.mpr (decodes_of_encode h)

/-- Only in a file with several columns can a line be empty, and there a row has several fields. -/
theorem not_isEmptyLine {width : Nat} {fields : List String} (h : fields.length = width) :
    isEmptyLine width fields = false := by
  unfold isEmptyLine
  split
  · simp [← h]
  · rfl

theorem map_cellOf {row : List (Option String)} {texts : List String}
    (h : List.Forall₂ Spells row texts) : texts.map cellOf = row := by
  induction h with
  | nil => rfl
  | cons hcell _ ih => rw [List.map_cons, cellOf_of_spells hcell, ih]

theorem length_of_spellsRow {row : List (Option String)} {fields : List (List UInt8)}
    (h : SpellsRow row fields) : fields.length = row.length := by
  obtain ⟨texts, rfl, hspelled⟩ := h
  rw [List.length_map, hspelled.length_eq]

theorem ne_nil_of_spellsRow {rows : List (List (Option String))}
    {records : List (List (List UInt8))} (h : List.Forall₂ SpellsRow rows records)
    (hrows : ∀ row ∈ rows, row ≠ []) : ∀ fields ∈ records, fields ≠ [] := by
  induction h with
  | nil => simp
  | @cons row fields _ _ hrow _ ih =>
      intro other hother
      rcases List.mem_cons.mp hother with rfl | hother
      · rintro rfl
        exact hrows row (by simp) (List.eq_nil_of_length_eq_zero (length_of_spellsRow hrow).symm)
      · exact ih (fun row hrow => hrows row (by simp [hrow])) other hother

theorem rowOf_of_spellsRow {row : List (Option String)} {record : Csv.Record}
    (h : SpellsRow row record.fields) (index : Nat) :
    rowOf row.length index record = .ok (some row) := by
  obtain ⟨texts, hfields, hspelled⟩ := h
  have hlength : texts.length = row.length := hspelled.length_eq.symm
  have hpad : pad row.length (texts.map cellOf) = row := by
    simp [pad, map_cellOf hspelled]
  rw [rowOf_of_decodes (decodes_of_encode hfields), not_isEmptyLine hlength, hpad, hlength]
  simp

/-- Records of written rows give these rows. -/
theorem rowsFrom_of_spellsRow {width : Nat} {rows : List (List (Option String))}
    {records : List Csv.Record} (hwidth : ∀ row ∈ rows, row.length = width)
    (h : List.Forall₂ (fun row record => SpellsRow row record.fields) rows records)
    (index : Nat) (done : List (List (Option String))) :
    rowsFrom width index done records = .ok (done.reverse ++ rows) := by
  induction h generalizing index done with
  | nil => simp [rowsFrom]
  | @cons row record _ _ hrow _ ih =>
      have hfirst := rowOf_of_spellsRow hrow index
      rw [hwidth row (by simp)] at hfirst
      rw [rowsFrom, hfirst]
      simp [ih fun other hother => hwidth other (by simp [hother])]

/-! ### Whole datasets -/

/-- **A dataset that is written is read back.**  Its names are all different and none of them is
blank, and its rows are as wide as its header; how its lines end, which empty lines there are and
whether there is a byte-order mark makes no difference. -/
theorem parse_written {columns : List String} {rows : List (List (Option String))}
    (hcolumns : columns ≠ []) (hdistinct : columns.Nodup)
    (hnamed : ∀ column ∈ columns, Text.allBlank column = false)
    (hwidth : ∀ row ∈ rows, row.length = columns.length)
    {header : Csv.Line} {lines : List Csv.Line}
    (hheader : header.fields = columns.map Text.Utf8.encode)
    (hlines : List.Forall₂ SpellsRow rows (lines.map Csv.Line.fields))
    (mark : Bool) (blank : List Csv.LineEnd) :
    parse (Csv.written mark (header :: lines) blank) = .ok ⟨columns, rows⟩ := by
  have hsome : ∀ row ∈ rows, row ≠ [] := by
    intro row hrow hnone
    have hlength := hwidth row hrow
    rw [hnone] at hlength
    exact hcolumns (List.eq_nil_of_length_eq_zero hlength.symm)
  have hfields : ∀ line ∈ header :: lines, line.fields ≠ [] := by
    intro line hline
    rcases List.mem_cons.mp hline with rfl | hline
    · rw [hheader]
      simpa using hcolumns
    · exact ne_nil_of_spellsRow hlines hsome line.fields (List.mem_map_of_mem hline)
  have hrecords := Csv.map_fields_records mark hfields blank
  obtain ⟨first, others, hread, hfirst, hothers⟩ := List.map_eq_cons_iff.mp hrecords
  rw [← hothers, List.forall₂_map_right_iff] at hlines
  have hcells : during .readingHeader (fieldsOf 0 first) = .ok columns := by
    rw [fieldsOf_of_encode (hfirst.trans hheader)]
    rfl
  have hnames : Header.names columns = columns := Header.names_of_nodup hdistinct hnamed
  have hrows : rowsFrom columns.length 1 [] others = .ok rows :=
    rowsFrom_of_spellsRow hwidth hlines 1 []
  unfold parse
  rw [hread]
  dsimp only
  rw [hcells]
  show (do
    let rows ← rowsFrom (Header.names columns).length 1 [] others
    return ⟨Header.names columns, rows⟩ : Except Failure Dataset) = _
  rw [hnames, hrows]
  rfl

/-- The header of a text with two columns, behind an empty line. -/
def oddHeader : Csv.Line :=
  ⟨[.both], ["a,b", "é \"x\""].map Text.Utf8.encode, .carriageReturn⟩

/-- Two rows behind it: one with a line end and quotes in a cell and nothing in the other, and one
with blanks around a number. -/
def oddLines : List Csv.Line :=
  [⟨[], ["x\r\n\"y\"", "NaN"].map Text.Utf8.encode, .both⟩,
    ⟨[.lineFeed, .carriageReturn], [" 1 ", ","].map Text.Utf8.encode, .carriageReturn⟩]

theorem parse_oddLines :
    parse (Csv.written true (oddHeader :: oddLines) [.both]) =
      .ok ⟨["a,b", "é \"x\""], [[some "x\r\n\"y\"", none], [some " 1 ", some ","]]⟩ :=
  parse_written (by decide) (by decide) (by decide +kernel) (by decide) rfl
    (.cons ⟨_, rfl, .cons (.present (by decide +kernel))
        (.cons (spells_of_mem_missingTokens (by decide +kernel)) .nil)⟩
      (.cons ⟨_, rfl, .cons (.present (by decide +kernel))
        (.cons (.present (by decide +kernel)) .nil)⟩ .nil))
    true [.both]

end DatasetSync.Dataset
