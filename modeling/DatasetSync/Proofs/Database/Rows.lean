/-
Inserting the rows of a dataset.

A table of a schema has no key and no references, so a row is refused only for a null
that is not allowed, and a row that the schema describes has none.  Such a row is put behind
the others, each value as it is read back.  By induction so are all rows of a
batch, and by a second induction all batches; as the batches in a row are the rows
again, how they were cut leaves no trace in the table.
-/
import DatasetSync.Database.Load
import DatasetSync.Proofs.Database.Creation
import DatasetSync.Proofs.Database.Registry
import DatasetSync.Proofs.Values

namespace DatasetSync

/-- A row of cells as it is read back. -/
def Schema.readRow (s : Schema) (row : List (Option String)) : Row :=
  List.zipWith (fun c cell => (Value.ofCell c.type cell).readBack) s.columns row

namespace Database

/-! ### Batches -/

/-- The batches one behind the other are the rows. -/
theorem flatten_batches {α : Type} (rows : List α) : (batches rows).flatten = rows := by
  induction rows using batches.induct with
  | case1 rows hempty =>
      rw [batches, if_pos hempty]
      simpa using hempty.symm
  | case2 rows hsome ih =>
      rw [batches, if_neg hsome, List.flatten_cons, ih, List.take_append_drop]

/-! ### One row -/

/-- The values of a row that fits its columns are stored as they are read back. -/
theorem zipWith_store (columns : List Column) (row : List (Option String))
    (hfits : ∀ p ∈ columns.zip row, Value.Fits p.1.type (Value.ofCell p.1.type p.2)) :
    List.zipWith ColumnDef.store (columns.map ColumnDef.ofColumn)
        (List.zipWith (fun c cell => Value.ofCell c.type cell) columns row) =
      List.zipWith (fun c cell => (Value.ofCell c.type cell).readBack) columns row := by
  induction columns generalizing row with
  | nil => rfl
  | cons c columns ih =>
      cases row with
      | nil => rfl
      | cons cell row =>
          have hrest := ih row fun p hp => hfits p (by simp [hp])
          simp [hrest, store_of_fits (hfits (c, cell) (by simp))]

/-- No null stands where none is allowed. -/
theorem checkNulls_of_required (t : Table) (columns : List Column) (row : List (Option String))
    (hrequired : ∀ p ∈ columns.zip row, p.1.nullable = false → p.2 ≠ none) :
    t.checkNulls (columns.map ColumnDef.ofColumn)
      (List.zipWith (fun c cell => (Value.ofCell c.type cell).readBack) columns row) = .ok () := by
  induction columns generalizing row with
  | nil => simp [Table.checkNulls]
  | cons c columns ih =>
      cases row with
      | nil => simp [Table.checkNulls]
      | cons cell row =>
          have hrest := ih row fun p hp => hrequired p (by simp [hp])
          have hcell := hrequired (c, cell) (by simp)
          simp only [List.map_cons, List.zipWith_cons_cons, Table.checkNulls]
          rw [if_neg, hrest]
          simp only [ColumnDef.ofColumn, Bool.and_eq_true, Bool.not_eq_true', beq_iff_eq,
            Value.readBack_eq_null_iff, Value.ofCell_eq_null_iff, not_and]
          exact hcell

/-- A table in which values may be repeated refuses none that is. -/
theorem checkDistinct_of_not_distinct {t : Table} (row : Row)
    (ht : ∀ c ∈ t.columns, c.isDistinct = false) : t.checkDistinct row = .ok () := by
  have hnone : ((t.columns.zip row).zipIdx.filter fun entry =>
      entry.1.1.isDistinct && entry.1.2 != .null) = [] := by
    rw [List.filter_eq_nil_iff]
    intro entry hentry
    have hpair : entry.1 ∈ t.columns.zip row := List.fst_mem_of_mem_zipIdx hentry
    rw [ht _ (List.of_mem_zip hpair).1]
    simp
  have hrepeated : t.repeated? row = none := by
    unfold Table.repeated?
    simp [hnone]
  rw [Table.checkDistinct, hrepeated]

/-- The table has the columns of a schema. -/
def Table.HasColumnsOf (t : Table) (s : Schema) : Prop :=
  t.columns = s.columns.map ColumnDef.ofColumn

theorem Table.HasColumnsOf.isDistinct {t : Table} {s : Schema} (h : t.HasColumnsOf s) :
    ∀ c ∈ t.columns, c.isDistinct = false := by
  intro c hc
  rw [h] at hc
  obtain ⟨column, -, rfl⟩ := List.mem_map.mp hc
  rfl

theorem Table.HasColumnsOf.references {t : Table} {s : Schema} (h : t.HasColumnsOf s) :
    t.references = [] := by
  rw [Table.references, List.filterMap_eq_nil_iff]
  rintro ⟨c, index⟩ hc
  have hmem : c ∈ t.columns := List.fst_mem_of_mem_zipIdx hc
  rw [h] at hmem
  obtain ⟨column, -, rfl⟩ := List.mem_map.mp hmem
  rfl

/-- A table with rows put behind its own. -/
def Table.append (t : Table) (rows : List Row) : Table :=
  { t with rows := t.rows ++ rows.toArray }

@[simp] theorem Table.append_nil (t : Table) : t.append [] = t := by
  simp [Table.append]

theorem Table.append_append (t : Table) (first second : List Row) :
    (t.append first).append second = t.append (first ++ second) := by
  simp [Table.append, Array.append_assoc]

theorem Table.HasColumnsOf.append {t : Table} {s : Schema} (h : t.HasColumnsOf s)
    (rows : List Row) : (t.append rows).HasColumnsOf s :=
  h

/-- A row that the schema describes is put behind the others. -/
theorem insertRow_of_describes {s : Schema} {t : Table} {row : List (Option String)}
    (ht : t.HasColumnsOf s) (hrow : s.Describes row) :
    insertRow s t row = .ok (t.append [s.readRow row]) := by
  have hvalues : rowValues s.columns row =
      .ok (List.zipWith (fun c cell => Value.ofCell c.type cell) s.columns row) := by
    rw [rowValues, if_neg (by have := hrow.width; omega)]
  have hstored : t.stored (List.zipWith (fun c cell => Value.ofCell c.type cell) s.columns row) =
      s.readRow row := by
    rw [Table.stored, ht]
    exact zipWith_store _ _ hrow.fits
  have hnulls : t.checkNulls t.columns (s.readRow row) = .ok () := by
    rw [ht]
    exact checkNulls_of_required _ _ _ hrow.required
  have hinsert : t.insert (List.zipWith (fun c cell => Value.ofCell c.type cell) s.columns row) =
      .ok (t.append [s.readRow row]) := by
    rw [insert_of_references ht.references, hstored, hnulls,
      checkDistinct_of_not_distinct _ ht.isDistinct]
    rfl
  simp only [insertRow, hvalues]
  exact mapError_eq_ok.mpr hinsert

/-! ### All rows -/

/-- Rows that the schema describes are put behind the others in their order. -/
theorem insertRows_of_describes {s : Schema} {t : Table} {rows : List (List (Option String))}
    (ht : t.HasColumnsOf s) (hrows : ∀ row ∈ rows, s.Describes row) :
    insertRows s t rows = (.ok (), t.append (rows.map s.readRow)) := by
  induction rows generalizing t with
  | nil => simp [insertRows]
  | cons row rest ih =>
      rw [insertRows, insertRow_of_describes ht (hrows row (by simp))]
      show insertRows s (t.append [s.readRow row]) rest = _
      rw [ih (ht.append _) fun other hother => hrows other (by simp [hother]),
        Table.append_append]
      rfl

/-- However rows that the schema describes are cut into batches, all of them are put behind the
others in their order, and each is counted. -/
theorem insertBatches_of_describes {s : Schema} {t : Table} (total done : Nat)
    {batches : List (List (List (Option String)))} (ht : t.HasColumnsOf s)
    (hrows : ∀ batch ∈ batches, ∀ row ∈ batch, s.Describes row) :
    ∃ events, insertBatches s total done t batches =
      (.ok (done + batches.flatten.length), t.append (batches.flatten.map s.readRow), events) := by
  induction batches generalizing done t with
  | nil => exact ⟨[], by simp [insertBatches]⟩
  | cons batch rest ih =>
      obtain ⟨events, hrest⟩ := ih (done + batch.length)
        (ht.append (batch.map s.readRow)) fun other hother => hrows other (by simp [hother])
      refine ⟨.notice (.progress ⟨done + batch.length, total, s.name⟩) :: events, ?_⟩
      rw [insertBatches, insertRows_of_describes ht (hrows batch (by simp))]
      simp only [hrest, Table.append_append]
      simp [Nat.add_assoc]

/-- The rows of a dataset that the schema describes all come into its table. -/
theorem fill_of_describes (tx : Transaction) {s : Schema} {d : Dataset} {t : Table}
    (hfound : tx.current.table? s.name = some t) (ht : t.HasColumnsOf s)
    (hrows : ∀ row ∈ d.rows, s.Describes row) :
    ∃ events, tx.fill s d = (.ok d.rowCount,
      { tx with current := tx.current.putTable (t.append (d.rows.map s.readRow)) }, events) := by
  have hbatches : ∀ batch ∈ batches d.rows, ∀ row ∈ batch, s.Describes row := by
    intro batch hbatch row hrow
    refine hrows row ?_
    rw [← flatten_batches d.rows]
    exact List.mem_flatten_of_mem hbatch hrow
  obtain ⟨events, hinserted⟩ := insertBatches_of_describes d.rowCount 0 ht hbatches
  refine ⟨events, ?_⟩
  rw [Transaction.fill, hfound]
  simp only [hinserted, flatten_batches, Nat.zero_add]
  rfl

end Database
end DatasetSync
