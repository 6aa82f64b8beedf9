/-
Which parsed payloads can be loaded under a free name.

Of everything that can go wrong between the header and the last row only one thing
is left once the name is free and the header is neither too long nor cut off by a
NUL.  The names of the columns are made different letter by letter, but the
database compares them without regard to case: two names that differ in case only
are refused when the table is created.  Every other payload is loaded, and no row
of it is too short or has a null where none is allowed.
-/
import DatasetSync.Proofs.Database.Load

namespace DatasetSync

open Text (sameName DistinctNames)

/-! ### The schema of a payload -/

/-- The schema of a dataset with few columns and no NUL is refused for repeated columns only. -/
theorem creatable_infer {name : String} {d : Dataset} (hd : d.IsRectangular)
    (hfew : d.columns.length ≤ Database.maxColumns)
    (hnul : ∀ column ∈ d.columns, '\x00' ∉ column.toList) :
    Database.Creatable (Schema.infer name d) where
  nonempty := Schema.columns_infer_ne_nil name hd
  few := by
    rwa [Schema.length_columns_infer]
  noNul := by
    intro c hc
    apply hnul
    rw [← Schema.columnNames_infer name d]
    exact List.mem_map_of_mem hc

/-! ### Loading under a free name -/

/-- **A parsed payload is loaded exactly if its columns are different identifiers**: under a free
name, with at most 2000 header cells and no NUL in them, nothing else is refused. -/
theorem load_parsed_payload {payload : List UInt8} {cells : List String} {d : Dataset}
    {db : Database} {source : Source} {name : String} {t : Database.Table}
    (hparse : Dataset.parse payload = .ok d) (hcells : Dataset.headerCells payload = some cells)
    (hfew : cells.length ≤ 2000) (hnul : ∀ cell ∈ cells, '\x00' ∉ cell.toList)
    (hname : isTableName name = true)
    (hregistry : db.table? registryTable = some t) (hcolumns : t.HasRegistryColumns)
    (htable : db.table? name = none) (hview : db.view? name = none)
    (hindex : db.index? name = none) :
    (DistinctNames d.columns →
      (db.load source (Schema.infer name d) d false).result = .ok d.rowCount) ∧
    (¬DistinctNames d.columns → ∃ column ∈ d.columns,
      (db.load source (Schema.infer name d) d false).result =
        .error ⟨[.creatingTable name], .database (.duplicateColumn column)⟩) := by
  obtain ⟨parsed, hparsed, hnames, hd⟩ := Dataset.parse_eq_ok hparse
  rw [hcells, Option.some.injEq] at hparsed
  subst hparsed
  have hcreatable : Database.Creatable (Schema.infer name d) := by
    refine creatable_infer hd ?_ ?_
    · rw [hnames, Header.length_names]
      exact hfew
    · rw [hnames]
      exact Header.nul_not_mem_names hnul
  obtain ⟨registered, hregister⟩ := Database.register_of_columns source hregistry hcolumns
  have hfree := Database.isFree_of_register hregistry hname htable hview hindex hregister
  constructor
  · intro hdistinct
    have hcreated := Database.createTable_of_distinct hfree hcreatable
      (by rwa [Schema.columnNames_infer])
    exact (Database.load_of_stages (Schema.infer_describes name hd)
      ⟨.keep, hregister, hcreated⟩).1
  · intro hrepeat
    obtain ⟨c, hc, hrefused⟩ := Database.createTable_of_not_distinct hfree hcreatable
      (by rwa [Schema.columnNames_infer])
    refine ⟨c.name, ?_, Database.load_of_not_created hregister hrefused⟩
    rw [← Schema.columnNames_infer name d]
    exact List.mem_map_of_mem hc

/-- Names of columns that differ as identifiers. -/
theorem distinct_header_loaded :
    (Database.fresh.load ⟨"types", "https://example.org/types"⟩
      (Schema.infer "types" ⟨["a", "b"], [[some "1", some "2"]]⟩)
      ⟨["a", "b"], [[some "1", some "2"]]⟩ false).result = .ok 1 := by
  have hparse : Dataset.parse "a,b\n1,2\n".toUTF8.toList =
      .ok ⟨["a", "b"], [[some "1", some "2"]]⟩ := by decide +kernel
  have hcells : Dataset.headerCells "a,b\n1,2\n".toUTF8.toList = some ["a", "b"] := by
    decide +kernel
  exact (load_parsed_payload hparse hcells (by decide) (by decide) (by decide) rfl rfl rfl rfl
    rfl).1 (by decide)

/-- The names `a` and `A` are different letter by letter, but the same identifier: the payload is
accepted, and its table is not created. -/
theorem same_header_letters_refused :
    Dataset.parse "a,A\n1,2\n".toUTF8.toList = .ok ⟨["a", "A"], [[some "1", some "2"]]⟩ ∧
      Dataset.headerCells "a,A\n1,2\n".toUTF8.toList = some ["a", "A"] ∧
      isTableName "types" = true ∧
      Database.fresh.table? registryTable = some Database.emptyRegistry ∧
      Database.fresh.table? "types" = none ∧ Database.fresh.view? "types" = none ∧
      Database.fresh.index? "types" = none ∧
      (Database.fresh.load ⟨"types", "https://example.org/types"⟩
        (Schema.infer "types" ⟨["a", "A"], [[some "1", some "2"]]⟩)
        ⟨["a", "A"], [[some "1", some "2"]]⟩ false).result =
          .error ⟨[.creatingTable "types"], .database (.duplicateColumn "A")⟩ := by
  decide +kernel

end DatasetSync
