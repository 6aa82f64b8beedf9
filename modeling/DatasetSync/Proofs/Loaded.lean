/-
The table of a source that was loaded.

Between the payload and the table stand the parser, the names of the columns, the
inferred schema, the conversion of cells, the batches and the columns' affinities.
None of them loses or changes anything: the table has the dataset's columns and
rows in their order, and each value is that of its cell.  The older table that it
replaces is gone with its indexes, since the name had to be free before the new one
was created.
-/
import DatasetSync.Proofs.Ingest

namespace DatasetSync

namespace Database

open Text (sameName)

/-- A table holds a dataset, with the columns of the schema inferred from it. -/
structure Table.Holds (t : Table) (name : String) (d : Dataset) : Prop where
  called : t.name = name
  columns : t.columns = (Schema.infer name d).columns.map ColumnDef.ofColumn
  columnNames : t.columns.map ColumnDef.name = d.columns
  height : t.rows.size = d.rowCount
  width : ∀ row ∈ t.rows, row.length = d.columns.length
  /-- The value in a row and a column is that of the cell there, as it is read back. -/
  value : ∀ (i j : Nat) (row : List (Option String)) (cell : Option String) (column : Column),
    d.rows[i]? = some row → row[j]? = some cell →
    (Schema.infer name d).columns[j]? = some column →
    (t.rows[i]?.bind fun stored => stored[j]?) = some (Value.ofCell column.type cell).readBack

/-- The only table of a name holds a dataset. -/
def Holds (db : Database) (name : String) (d : Dataset) : Prop :=
  ∃ t, db.tables.filter (fun u => sameName u.name name) = [t] ∧ t.Holds name d

theorem length_readRow {s : Schema} {row : List (Option String)}
    (h : row.length = s.columns.length) : (s.readRow row).length = s.columns.length := by
  rw [Schema.readRow, List.length_zipWith, h, Nat.min_self]

/-- The table of a dataset holds it. -/
theorem Table.ofDataset_holds (name : String) {d : Dataset} (hd : d.IsRectangular) :
    (Table.ofDataset (Schema.infer name d) d).Holds name d where
  called := rfl
  columns := rfl
  columnNames := by
    show ((Schema.infer name d).columns.map ColumnDef.ofColumn).map ColumnDef.name = d.columns
    rw [List.map_map]
    exact Schema.columnNames_infer name d
  height := by
    simp [Table.ofDataset, Table.append, Table.ofSchema, Dataset.rowCount]
  width := by
    intro stored hstored
    simp only [Table.ofDataset, Table.append, Table.ofSchema, Array.empty_append,
      List.mem_toArray, List.mem_map] at hstored
    obtain ⟨row, hrow, rfl⟩ := hstored
    rw [length_readRow, Schema.length_columns_infer]
    rw [hd.width row hrow, Schema.length_columns_infer]
  value := by
    intro i j row cell column hrow hcell hcolumn
    simp [Table.ofDataset, Table.append, Table.ofSchema, hrow, Schema.readRow,
      List.getElem?_zipWith, hcell, hcolumn]

/-- A table that was added under a free name is the only one of that name. -/
theorem filter_withTable {db : Database} {t : Table} {name : String} (hname : t.name = name)
    (hnone : db.table? name = none) :
    (db.withTable t).tables.filter (fun u => sameName u.name name) = [t] := by
  have hold : db.tables.filter (fun u => sameName u.name name) = [] := by
    rw [List.filter_eq_nil_iff]
    intro u hu
    simp [table?_eq_none_iff.mp hnone u hu]
  simp [withTable, hold, hname]

/-- Clearing a table that is there leaves none of its indexes. -/
theorem Cleared.indexes {db cleared : Database} {name : String}
    (h : db.Cleared name true cleared) (hthere : db.hasTable name = true) :
    ∀ i ∈ cleared.indexes, sameName i.table name = false := by
  cases h with
  | replace hdrop hunregister =>
      obtain ⟨_, _, -, hrewritten⟩ := unregister_eq_ok hunregister
      rw [hrewritten.indexes]
      exact indexes_of_dropped hdrop hthere

end Database

/-- **After a source was loaded, its table holds the dataset of its payload**, and nothing else has
its name: neither an older table nor an index of one. -/
theorem holds_of_loaded {π : Type} {provider : Provider π} {options : IngestOptions}
    {db : Database} {state : π} {source : Source} {rows columns : Nat}
    (h : (ingestSource provider options db state source).result = .ok (.loaded rows columns)) :
    ∃ payload d, (provider.fetch state source).result = .ok payload ∧
      Dataset.parse payload = .ok d ∧ d.IsRectangular ∧
      rows = d.rowCount ∧ columns = d.columns.length ∧
      (ingestSource provider options db state source).database.Holds source.name d ∧
      (db.hasTable source.name = true →
        ∀ i ∈ (ingestSource provider options db state source).database.indexes,
          Text.sameName i.table source.name = false) := by
  obtain ⟨d, hload, hcolumns, hresult⟩ := reachesLoad_of_loaded h
  obtain ⟨payload, hfetch, hparse⟩ := hload.payload
  have hd := hload.isRectangular
  obtain ⟨hrows, cleared, registered, hstages, hdatabase⟩ :=
    Database.load_eq_ok (Schema.infer_describes source.name hd) hresult
  refine ⟨payload, d, hfetch, hparse, hd, hrows, hcolumns, ?_, ?_⟩
  · rw [hload.database, hdatabase]
    have hholds := Database.Table.ofDataset_holds source.name hd
    exact ⟨_, Database.filter_withTable hholds.called hstages.isFree.noTable, hholds⟩
  · intro hthere i hi
    rw [hload.database, hdatabase] at hi
    have hclearing := hstages.clearing
    rw [hthere] at hclearing
    obtain ⟨_, _, hrewritten, -⟩ := Database.register_eq_ok hstages.recording
    refine hclearing.indexes hthere i ?_
    rw [← hrewritten.indexes]
    exact hi

/-- A forced reload of two rows in place of an older table. -/
theorem holds_of_reloaded_types :
    ∃ d, Dataset.parse "x,y\n-0.0,a\n2,\n".toUTF8.toList = .ok d ∧
      (ingestSource Provider.memory { force := true } oldTypes
        [("types", "x,y\n-0.0,a\n2,\n".toUTF8.toList)]
        ⟨"types", "https://example.org/new"⟩).database.Holds "types" d := by
  have hloaded : (ingestSource Provider.memory { force := true } oldTypes
      [("types", "x,y\n-0.0,a\n2,\n".toUTF8.toList)]
      ⟨"types", "https://example.org/new"⟩).result = .ok (.loaded 2 2) := by decide +kernel
  obtain ⟨payload, d, hfetch, hparse, -, -, -, hholds, -⟩ := holds_of_loaded hloaded
  cases hfetch
  exact ⟨d, hparse, hholds⟩

end DatasetSync
