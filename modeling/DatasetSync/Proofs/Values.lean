/-
What is read back of a value that was stored in its column.

A column of an inferred schema only gets values of its own type, and nulls.  The
column's affinity would rewrite values of other types, but one of the column's own
type comes back as it went in.  Integers and texts are not touched at all.  A real
number may be kept as an integer in between, which loses nothing but the sign of
the negative zero.
-/
import DatasetSync.Database.Basic
import DatasetSync.Proofs.Dataset.Basic
import DatasetSync.Proofs.Number.Binary64
import DatasetSync.Proofs.Schema

namespace DatasetSync

/-- The value that is read back in place of a value.  The negative zero is read back as zero. -/
def Value.readBack : Value → Value
  | .real x => .real (if x.isZero then Number.Binary64.zero false else x)
  | v => v

/-- A value is of a type or null. -/
inductive Value.Fits : ColumnType → Value → Prop
  | null (type : ColumnType) : Fits type .null
  | integer (n : Int) : Fits .integer (.integer n)
  | real (x : Number.Binary64) : Fits .real (.real x)
  | text (s : String) : Fits .text (.text s)

/-- What a cell may become in a column of a type: a whole number that fits into 64 bits, a number
that is no NaN, or its own text.  Null stands for a missing cell and for nothing else. -/
inductive Value.Converts : ColumnType → Option String → Value → Prop
  | missing (type : ColumnType) : Converts type none .null
  | integer {cell : String} {n : Int} (h : Number.WholeLiteral (Text.trim cell).toList n) :
      Converts .integer (some cell) (.integer n)
  | real {cell : String} {x : Number.Binary64}
      (h : Number.RealLiteral (Text.trim cell).toList) (hx : x.isNaN = false) :
      Converts .real (some cell) (.real x)
  | text (cell : String) : Converts .text (some cell) (.text cell)

namespace Value

theorem Converts.fits {type : ColumnType} {cell : Option String} {v : Value}
    (h : Converts type cell v) : Fits type v := by
  cases h with
  | missing => exact .null type
  | integer => exact .integer _
  | real => exact .real _
  | text => exact .text _

/-- The value of a cell is null exactly if the cell is missing. -/
theorem ofCell_eq_null_iff {type : ColumnType} {cell : Option String} :
    ofCell type cell = .null ↔ cell = none := by
  cases cell with
  | none => simp [ofCell]
  | some cell =>
      cases type with
      | integer => cases h : Number.parseWhole cell <;> simp [ofCell, h]
      | real => cases h : Number.parseReal cell <;> simp [ofCell, h]
      | text => simp [ofCell]

theorem readBack_eq_null_iff {v : Value} : v.readBack = .null ↔ v = .null := by
  cases v <;> simp [readBack]

/-- A cell that can be read as the type of its column is converted to it. -/
theorem converts_ofCell {type : ColumnType} {cell : Option String}
    (hwhole : type = .integer → ∀ text, cell = some text → Schema.IsWhole text)
    (hreal : type = .real → ∀ text, cell = some text → Schema.IsNumber text) :
    Converts type cell (ofCell type cell) := by
  cases cell with
  | none => exact .missing type
  | some text =>
      cases type with
      | integer =>
          obtain ⟨n, hn⟩ := hwhole rfl text rfl
          simp only [ofCell, hn, Option.elim_some]
          exact .integer (Number.parseWhole_eq_some_iff.mp hn)
      | real =>
          obtain ⟨x, hx⟩ := hreal rfl text rfl
          simp only [ofCell, hx, Option.elim_some]
          exact .real (Number.exists_parseReal_iff.mp ⟨x, hx⟩) (Number.isNaN_of_parseReal hx)
      | text => exact .text text

/-- The cells that a column was inferred from are converted to its type. -/
theorem converts_of_mem {name : String} {cells : List (Option String)} {cell : Option String}
    (hcell : cell ∈ cells) :
    Converts (Schema.inferColumn name cells).type cell
      (ofCell (Schema.inferColumn name cells).type cell) := by
  refine converts_ofCell ?_ ?_
  · rintro htype text rfl
    exact Schema.isWhole_of_inferColumn htype text hcell
  · rintro htype text rfl
    exact Schema.isNumber_of_inferColumn htype text hcell

end Value

/-! ### Rows that a schema was made for -/

namespace Schema

/-- Each cell of a row can be read as the type of its column and is there if it has to be. -/
structure Describes (s : Schema) (row : List (Option String)) : Prop where
  width : row.length = s.columns.length
  fits : ∀ p ∈ s.columns.zip row, Value.Fits p.1.type (Value.ofCell p.1.type p.2)
  required : ∀ p ∈ s.columns.zip row, p.1.nullable = false → p.2 ≠ none

/-- The pairs of columns and cells of a row of the dataset that a schema was inferred from. -/
theorem mem_zip_infer {name : String} {d : Dataset} {row : List (Option String)}
    (hrow : row ∈ d.rows) {p : Column × Option String}
    (hp : p ∈ (infer name d).columns.zip row) :
    ∃ (column : String) (i : Nat), p.1 = inferColumn column (d.column i) ∧ p.2 ∈ d.column i := by
  obtain ⟨i, hi⟩ := List.mem_iff_getElem?.mp hp
  obtain ⟨hcolumn, hcell⟩ := List.getElem?_zip_eq_some.mp hi
  obtain ⟨column, heq⟩ := getElem?_columns_infer hcolumn
  exact ⟨column, i, heq, Dataset.mem_column hrow hcell⟩

theorem columns_infer_ne_nil (name : String) {d : Dataset} (hd : d.IsRectangular) :
    (infer name d).columns ≠ [] := by
  intro hnone
  apply hd.columns_ne_nil
  rw [← columnNames_infer name d, hnone, List.map_nil]

/-- **An inferred schema describes every row** of the dataset that it was inferred from. -/
theorem infer_describes (name : String) {d : Dataset} (hd : d.IsRectangular) :
    ∀ row ∈ d.rows, (infer name d).Describes row := by
  intro row hrow
  refine ⟨by rw [hd.width row hrow, length_columns_infer], ?_, ?_⟩
  · intro p hp
    obtain ⟨column, i, hcolumn, hcell⟩ := mem_zip_infer hrow hp
    rw [hcolumn]
    exact (Value.converts_of_mem hcell).fits
  · intro p hp hrequired hnone
    obtain ⟨column, i, hcolumn, hcell⟩ := mem_zip_infer hrow hp
    rw [hcolumn] at hrequired
    exact not_missing_of_inferColumn hrequired (hnone ▸ hcell)

end Schema

namespace Database

open Number (Binary64)

/-! ### Columns of real numbers -/

theorem exactInt?_of_isZero {x : Binary64} (hzero : x.isZero = true) : exactInt? x = some 0 := by
  simp [exactInt?, Binary64.toInt?_of_isZero hzero, Number.minInt, Number.maxInt]

theorem toInt?_of_exactInt? {x : Binary64} {n : Int} (h : exactInt? x = some n) :
    x.toInt? = some n := by
  unfold exactInt? at h
  split at h
  · rename_i hwhole
    split at h
    · rwa [hwhole]
    · contradiction
  · contradiction

/-- A number that is kept as an integer, where that is possible, is read back as the number. -/
theorem asReal_preferInteger (x : Binary64) :
    asReal (preferInteger x) = (Value.real x).readBack := by
  unfold preferInteger
  cases h : exactInt? x with
  | none =>
      have hzero : x.isZero = false := by
        rw [Bool.eq_false_iff]
        intro hzero
        rw [exactInt?_of_isZero hzero] at h
        contradiction
      simp [asReal, Value.readBack, hzero]
  | some n =>
      simp [asReal, Value.readBack, Binary64.ofInt_of_toInt? (toInt?_of_exactInt? h)]

/-! ### Columns of a schema -/

/-- The affinity that the word for a type gives. -/
theorem ofDeclared_word (type : ColumnType) :
    Affinity.ofDeclared type.word =
      match type with
      | .integer => .integer
      | .real => .real
      | .text => .text := by
  cases type <;> decide

/-- **A value that fits its column is read back**, except for the sign of the negative zero. -/
theorem store_of_fits {c : Column} {v : Value} (h : Value.Fits c.type v) :
    (ColumnDef.ofColumn c).store v = v.readBack := by
  have haffinity := ofDeclared_word c.type
  show (Affinity.ofDeclared c.type.word).store v = v.readBack
  generalize c.type = type at h haffinity
  rw [haffinity]
  cases h with
  | null => cases type <;> rfl
  | integer n => rfl
  | real x => exact asReal_preferInteger x
  | text s => rfl

end Database
end DatasetSync
