/-
What is inferred of a dataset, and what conversion makes of its cells.

Where every row is as wide as the header, each column has one cell in each row, and the
column that is inferred is the one that the rule gives for these cells.  Conversion reads
each cell by itself and accepts the same literals: in a column of numbers every present
cell becomes a number, and null stands for the missing cells only.
-/
import DatasetSync.Proofs.Values

namespace DatasetSync

/-! ### The rule -/

/-- A column that reaches into every row has a cell in each of them. -/
theorem Dataset.column?_of_lt {d : Dataset} {i : Nat} (h : ∀ row ∈ d.rows, i < row.length) :
    d.column? i = some (d.column i) := by
  unfold column? column
  generalize d.rows = rows at h
  induction rows with
  | nil => rfl
  | cons row rest ih =>
      have hlt : i < row.length := h row (by simp)
      have hcell : row[i]? = some row[i] := List.getElem?_eq_getElem hlt
      simp [hcell, ih fun other hother => h other (by simp [hother])]

namespace Schema

/-- **Inference follows its rule.**  The schema has the header's columns in their order, each is the
one that the rule gives for the cells of its place, and the order of the rows plays no part. -/
theorem infer_meets_rule (name : String) {d : Dataset}
    (hwidth : ∀ row ∈ d.rows, row.length = d.columns.length) :
    (infer name d).name = name ∧ (infer name d).columnNames = d.columns ∧
      (∀ (i : Nat) (c : Column), (infer name d).columns[i]? = some c →
        ∃ cells, d.column? i = some cells ∧ MeetsRule c cells) ∧
      ∀ rows, rows.Perm d.rows → infer name ⟨d.columns, rows⟩ = infer name d := by
  refine ⟨rfl, columnNames_infer name d, ?_, fun rows => infer_perm name⟩
  intro i c hc
  obtain ⟨hlt, -⟩ := List.getElem?_eq_some_iff.mp hc
  rw [length_columns_infer] at hlt
  obtain ⟨column, rfl⟩ := getElem?_columns_infer hc
  refine ⟨d.column i, Dataset.column?_of_lt ?_, inferColumn_meetsRule column (d.column i)⟩
  intro row hrow
  rw [hwidth row hrow]
  exact hlt

/-- Rows in which whole numbers, others, texts and missing cells come together. -/
def mixedRows : Dataset :=
  ⟨["id", "factor", "note", "order"],
    [[some " 1", some "0.5", some "nan", none], [some "+2", some "3", none, none]]⟩

theorem infer_meets_rule_of_mixedRows :
    (∀ row ∈ mixedRows.rows, row.length = mixedRows.columns.length) ∧
      (infer "t" mixedRows).columns = [⟨"id", .integer, false⟩, ⟨"factor", .real, false⟩,
        ⟨"note", .text, true⟩, ⟨"order", .real, true⟩] ∧
      (∃ cells, mixedRows.column? 1 = some cells ∧ MeetsRule ⟨"factor", .real, false⟩ cells) ∧
      infer "t" ⟨mixedRows.columns, mixedRows.rows.reverse⟩ = infer "t" mixedRows := by
  have hwidth : ∀ row ∈ mixedRows.rows, row.length = mixedRows.columns.length := by decide
  have hcolumns : (infer "t" mixedRows).columns = [⟨"id", .integer, false⟩,
      ⟨"factor", .real, false⟩, ⟨"note", .text, true⟩, ⟨"order", .real, true⟩] := by
    decide +kernel
  obtain ⟨-, -, hrule, hperm⟩ := infer_meets_rule "t" hwidth
  exact ⟨hwidth, hcolumns, hrule 1 _ (by rw [hcolumns]; rfl), hperm _ (List.reverse_perm _)⟩

end Schema

/-! ### Conversion -/

namespace Value

/-- **Conversion agrees with inference.**  In the schema that a dataset calls for, every cell becomes
a value of its column's type, or null if it is missing, and no required column gets a null. -/
theorem conversion_agrees (name : String) {d : Dataset}
    (hwidth : ∀ row ∈ d.rows, row.length = d.columns.length) :
    ∀ row ∈ d.rows, ∀ (i : Nat) (c : Column), (Schema.infer name d).columns[i]? = some c →
      ∃ cell, row[i]? = some cell ∧ Converts c.type cell (ofCell c.type cell) ∧
        (ofCell c.type cell = .null ↔ cell = none) ∧
        (c.nullable = false → ofCell c.type cell ≠ .null) := by
  intro row hrow i c hc
  obtain ⟨hlt, -⟩ := List.getElem?_eq_some_iff.mp hc
  rw [Schema.length_columns_infer, ← hwidth row hrow] at hlt
  have hcell : row[i]? = some row[i] := List.getElem?_eq_getElem hlt
  have hmem : row[i] ∈ d.column i := Dataset.mem_column hrow hcell
  obtain ⟨column, rfl⟩ := Schema.getElem?_columns_infer hc
  refine ⟨row[i], hcell, converts_of_mem hmem, ofCell_eq_null_iff, ?_⟩
  intro hrequired hnull
  rw [ofCell_eq_null_iff.mp hnull] at hmem
  exact Schema.not_missing_of_inferColumn hrequired hmem

/-- A cell of a required column of real numbers. -/
theorem conversion_agrees_in_mixedRows :
    (∀ row ∈ Schema.mixedRows.rows, row.length = Schema.mixedRows.columns.length) ∧
      [some " 1", some "0.5", some "nan", none] ∈ Schema.mixedRows.rows ∧
      (Schema.infer "t" Schema.mixedRows).columns[1]? = some ⟨"factor", .real, false⟩ ∧
      Converts .real (some "0.5") (ofCell .real (some "0.5")) ∧
      ofCell .real (some "0.5") ≠ .null := by
  have hwidth : ∀ row ∈ Schema.mixedRows.rows,
      row.length = Schema.mixedRows.columns.length := by
    decide
  have hrow : [some " 1", some "0.5", some "nan", none] ∈ Schema.mixedRows.rows := by decide
  have hcolumn : (Schema.infer "t" Schema.mixedRows).columns[1]? =
      some ⟨"factor", .real, false⟩ := by
    decide +kernel
  obtain ⟨cell, hcell, hconverts, -, hrequired⟩ :=
    conversion_agrees "t" hwidth _ hrow 1 _ hcolumn
  cases hcell
  exact ⟨hwidth, hrow, hcolumn, hconverts, hrequired rfl⟩

end Value
end DatasetSync
