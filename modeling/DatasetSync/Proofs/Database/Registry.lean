/-
The registry as a list of sources.

The registry's table is read as the list of the sources in it, and what statements
do to the table is said as what they do to the list: recording puts a source at its
end unless its name is there, letter by letter, and taking a name out keeps the
others in their order.  Listing gives the same sources sorted by name, so the
status speaks of exactly the recorded ones.
-/
import DatasetSync.Database.Registry
import DatasetSync.Proofs.Database.Tables

namespace DatasetSync

/-- The row of the registry for a source. -/
def Source.row (source : Source) : Row :=
  [.text source.name, .text source.url]

/-- A source's name and address as the registry gives them. -/
def Source.entry (source : Source) : Value × Value :=
  (.text source.name, .text source.url)

namespace Database

open Text (sameName)

/-! ### Rows that are added and taken out -/

theorem insert_eq_ok {t t' : Table} {row : Row} (h : t.insert row = .ok t') :
    t' = { t with rows := t.rows.push (t.stored row) } := by
  simp only [Table.insert, bind_eq_ok] at h
  obtain ⟨_, -, _, -, _, -, h⟩ := h
  split at h
  · cases h
    rfl
  · contradiction

/-- A row is put behind the others or left out. -/
theorem insertOrIgnore_eq_ok {t t' : Table} {row : Row} (h : t.insertOrIgnore row = .ok t') :
    t' = t ∨ t' = { t with rows := t.rows.push (t.stored row) } := by
  unfold Table.insertOrIgnore at h
  split at h
  · rename_i hinsert
    cases h
    exact Or.inr (insert_eq_ok hinsert)
  · split at h
    · cases h
      exact Or.inl rfl
    · contradiction

theorem delete_eq_ok {t t' : Table} {index : Nat} {value : Value}
    (h : t.delete index value = .ok t') : t' = t.without index value := by
  rw [Table.delete, bind_eq_ok] at h
  obtain ⟨_, -, h⟩ := h
  dsimp only at h
  split at h
  · contradiction
  · cases h
    rfl

theorem isIgnored_of_checkNulls {t : Table} {fault : Fault} {columns : List ColumnDef} {row : Row}
    (h : t.checkNulls columns row = .error fault) : fault.isIgnored = true := by
  induction columns generalizing row with
  | nil => simp [Table.checkNulls] at h
  | cons c columns ih =>
      cases row with
      | nil => simp [Table.checkNulls] at h
      | cons v row =>
          rw [Table.checkNulls] at h
          split at h
          · cases h
            rfl
          · exact ih h

theorem isIgnored_of_checkDistinct {t : Table} {fault : Fault} {row : Row}
    (h : t.checkDistinct row = .error fault) : fault.isIgnored = true := by
  unfold Table.checkDistinct at h
  split at h
  · cases h
    split <;> rfl
  · contradiction

/-! ### Tables without references

Where no column refers to another, only nulls and values that are there already are refused, and
every row can be taken out.
-/

section References

variable {t : Table} (ht : t.references = [])

include ht

theorem checkTargets_of_references : t.checkTargets = .ok () := by
  simp [Table.checkTargets, ht]

theorem findsAll_of_references (rows : List Row) (row : Row) : t.findsAll rows row = true := by
  simp [Table.findsAll, ht]

theorem insert_of_references (row : Row) :
    t.insert row = do
      t.checkNulls t.columns (t.stored row)
      t.checkDistinct (t.stored row)
      return { t with rows := t.rows.push (t.stored row) } := by
  simp only [Table.insert, checkTargets_of_references ht, findsAll_of_references ht, if_true]
  rfl

theorem exists_insertOrIgnore (row : Row) : ∃ t', t.insertOrIgnore row = .ok t' := by
  unfold Table.insertOrIgnore
  split
  · exact ⟨_, rfl⟩
  · rename_i fault hinsert
    rw [insert_of_references ht, bind_eq_error] at hinsert
    have hignored : fault.isIgnored = true := by
      rcases hinsert with hnull | ⟨_, -, hinsert⟩
      · exact isIgnored_of_checkNulls hnull
      · rcases bind_eq_error.mp hinsert with hrepeated | ⟨_, -, hinsert⟩
        · exact isIgnored_of_checkDistinct hrepeated
        · contradiction
    rw [if_pos hignored]
    exact ⟨t, rfl⟩

theorem delete_of_references (index : Nat) (value : Value) :
    t.delete index value = .ok (t.without index value) := by
  simp only [Table.delete, checkTargets_of_references ht, findsAll_of_references ht]
  simp

end References

/-! ### Rows that change and columns that stay -/

/-- The second table is the first one with other rows. -/
structure Table.SameBut (t t' : Table) : Prop where
  name : t'.name = t.name
  columns : t'.columns = t.columns
  shadows : t'.shadows = t.shadows

theorem sameBut_insertOrIgnore {t t' : Table} {row : Row} (h : t.insertOrIgnore row = .ok t') :
    t.SameBut t' := by
  rcases insertOrIgnore_eq_ok h with rfl | rfl <;> exact ⟨rfl, rfl, rfl⟩

theorem sameBut_delete {t t' : Table} {index : Nat} {value : Value}
    (h : t.delete index value = .ok t') : t.SameBut t' := by
  rw [delete_eq_ok h]
  exact ⟨rfl, rfl, rfl⟩

/-! ### Changes of the registry's table

Recording a source and taking a name out put a table with other rows in the place of the registry,
and change nothing else.
-/

/-- The second database has another table in the place of the first one's registry. -/
structure Rewritten (db : Database) (t t' : Table) (db' : Database) : Prop where
  found : db.table? registryTable = some t
  same : t.SameBut t'
  database : db' = db.putTable t'

namespace Rewritten

variable {db db' : Database} {t t' : Table} (h : db.Rewritten t t' db')

include h

theorem called : sameName t'.name registryTable = true := by
  rw [h.same.name]
  exact (mem_of_table? h.found).2

theorem hasTable (other : String) : db'.hasTable other = db.hasTable other := by
  rw [h.database, hasTable_putTable]

theorem hasTable_registry : db'.hasTable registryTable = true := by
  rw [h.hasTable, Database.hasTable, h.found]
  rfl

theorem table?_registry : db'.table? registryTable = some t' := by
  have hthere : db.hasTable registryTable = true := by
    rw [Database.hasTable, h.found]
    rfl
  rw [h.database, table?_putTable_self h.called hthere]

theorem table?_of_ne {other : String} (hne : sameName other registryTable = false) :
    db'.table? other = db.table? other := by
  rw [h.database]
  refine table?_putTable_of_ne db ?_
  rw [Text.sameName_congr_right h.called, hne]

theorem views : db'.views = db.views := by
  rw [h.database]
  rfl

theorem indexes : db'.indexes = db.indexes := by
  rw [h.database]
  rfl

theorem noVirtualTables (hdb : db.NoVirtualTables) : db'.NoVirtualTables := by
  intro u hu
  rw [h.database, putTable, List.mem_map] at hu
  obtain ⟨v, hv, rfl⟩ := hu
  split
  · rw [h.same.shadows]
    exact hdb t (mem_of_table? h.found).1
  · exact hdb v hv

end Rewritten

/-- A registry that can be written is there. -/
theorem table?_of_writable {db : Database} {t : Table} (h : db.writableRegistry = .ok t) :
    db.table? registryTable = some t := by
  unfold writableRegistry at h
  split at h
  · rename_i hfound
    split at h
    · contradiction
    · split at h
      · contradiction
      · cases h
        exact hfound
  · contradiction
  · contradiction

/-- Recording a source adds its row to the registry, unless the row is left out. -/
theorem register_eq_ok_iff {db db' : Database} {source : Source} :
    db.register source = .ok db' ↔
      ∃ t t', db.writableRegistry = .ok t ∧ t.insertOrIgnore (t.registryRow source) = .ok t' ∧
        db' = db.putTable t' := by
  simp only [register, mapError_eq_ok, bind_eq_ok]
  constructor
  · rintro ⟨t, hwritable, t', hinsert, hdb⟩
    cases hdb
    exact ⟨t, t', hwritable, hinsert, rfl⟩
  · rintro ⟨t, t', hwritable, hinsert, rfl⟩
    exact ⟨t, hwritable, t', hinsert, rfl⟩

theorem register_eq_ok {db db' : Database} {source : Source} (h : db.register source = .ok db') :
    ∃ t t', db.Rewritten t t' db' ∧ t.insertOrIgnore (t.registryRow source) = .ok t' := by
  obtain ⟨t, t', hwritable, hinsert, hdb⟩ := register_eq_ok_iff.mp h
  exact ⟨t, t', ⟨table?_of_writable hwritable, sameBut_insertOrIgnore hinsert, hdb⟩, hinsert⟩

/-- Taking a name out takes its rows from the registry. -/
theorem unregister_eq_ok {db db' : Database} {name : String} (h : db.unregister name = .ok db') :
    ∃ t index, t.columnIndex? nameColumn = some index ∧
      db.Rewritten t (t.without index (.text name)) db' := by
  rw [unregister, mapError_eq_ok] at h
  unfold withoutRecord at h
  split at h
  · rename_i hfound
    split at h
    · rename_i index hindex
      rw [bind_eq_ok] at h
      obtain ⟨t', hdelete, h⟩ := h
      cases h
      have hsame := sameBut_delete hdelete
      rw [delete_eq_ok hdelete] at hsame ⊢
      exact ⟨_, index, hindex, hfound, hsame, rfl⟩
    · contradiction
  · contradiction
  · contradiction

/-! ### A registry and its list of sources -/

/-- The table has the registry's own two columns. -/
def Table.HasRegistryColumns (t : Table) : Prop :=
  t.columns = emptyRegistry.columns

/-- The table has the registry's columns, and a row for each of some sources. -/
structure Table.Lists (t : Table) (sources : List Source) : Prop where
  columns : t.HasRegistryColumns
  rows : t.rows.toList = sources.map Source.row

theorem Table.HasRegistryColumns.registryRow {t : Table} (ht : t.HasRegistryColumns)
    (source : Source) : t.registryRow source = source.row := by
  rw [Table.registryRow, ht]
  rfl

theorem Table.HasRegistryColumns.stored {t : Table} (ht : t.HasRegistryColumns)
    (source : Source) : t.stored source.row = source.row := by
  rw [Table.stored, ht]
  rfl

theorem Table.HasRegistryColumns.columnIndex?_name {t : Table} (ht : t.HasRegistryColumns) :
    t.columnIndex? nameColumn = some 0 := by
  rw [Table.columnIndex?, ht]
  decide

theorem Table.HasRegistryColumns.columnIndex?_url {t : Table} (ht : t.HasRegistryColumns) :
    t.columnIndex? urlColumn = some 1 := by
  rw [Table.columnIndex?, ht]
  decide

theorem Table.HasRegistryColumns.references {t : Table} (ht : t.HasRegistryColumns) :
    t.references = [] := by
  rw [Table.references, ht]
  rfl

theorem emptyRegistry_lists : emptyRegistry.Lists [] :=
  ⟨rfl, rfl⟩

theorem Collation.binary_same (v w : Value) : Collation.binary.same v w = (v == w) := by
  have hkey : ∀ v, Collation.binary.key v = v := by
    intro v
    cases v <;> rfl
  rw [Collation.same, hkey, hkey]

theorem Table.HasRegistryColumns.hasValue {t : Table} (ht : t.HasRegistryColumns)
    (source : Source) (name : String) :
    t.hasValue 0 (.text name) source.row = decide (source.name = name) := by
  have hvalue : t.hasValue 0 (.text name) source.row =
      Collation.binary.same (.text source.name) (.text name) := by
    rw [Table.hasValue, ht]
    rfl
  rw [hvalue, Collation.binary_same, Bool.eq_iff_iff]
  simp

/-- The registry refuses a row that repeats a name. -/
theorem Table.Lists.checkDistinct {t : Table} {sources : List Source} (ht : t.Lists sources)
    (source : Source) :
    t.checkDistinct source.row =
      if source.name ∈ sources.map Source.name then .error (.keyTaken t.name nameColumn)
      else .ok () := by
  have hdistinct : ((t.columns.zip source.row).zipIdx.filter fun entry =>
      entry.1.1.isDistinct && entry.1.2 != .null).reverse =
        (emptyRegistry.columns.head?.map fun c => ((c, .text source.name), 0)).toList := by
    rw [ht.columns]
    rfl
  have hany : (t.rows.any (t.hasValue 0 (.text source.name))) =
      decide (source.name ∈ sources.map Source.name) := by
    rw [← Array.any_toList, ht.rows, List.any_map, Bool.eq_iff_iff, List.any_eq_true,
      decide_eq_true_eq, List.mem_map]
    simp [ht.columns.hasValue]
  have hrepeated : t.repeated? source.row =
      if source.name ∈ sources.map Source.name then emptyRegistry.columns.head? else none := by
    unfold Table.repeated?
    simp only [hdistinct]
    by_cases hmem : source.name ∈ sources.map Source.name
    · simp [emptyRegistry, hany, hmem]
    · simp [emptyRegistry, hany, hmem]
  unfold Table.checkDistinct
  rw [hrepeated]
  by_cases hmem : source.name ∈ sources.map Source.name
  · rw [if_pos hmem, if_pos hmem]
    rfl
  · rw [if_neg hmem, if_neg hmem]

/-- Sources with one more, unless its name is there. -/
def withSource (sources : List Source) (source : Source) : List Source :=
  if source.name ∈ sources.map Source.name then sources else sources ++ [source]

theorem mem_withSource {sources : List Source} {source s : Source}
    (h : s ∈ withSource sources source) : s ∈ sources ∨ s = source := by
  unfold withSource at h
  split at h
  · exact Or.inl h
  · simpa using h

theorem mem_withSource_of_mem {sources : List Source} {s : Source} (source : Source)
    (h : s ∈ sources) : s ∈ withSource sources source := by
  unfold withSource
  split
  · exact h
  · exact List.mem_append_left _ h

theorem exists_name_withSource (sources : List Source) (source : Source) :
    ∃ s ∈ withSource sources source, s.name = source.name := by
  unfold withSource
  split
  · rename_i hold
    exact List.mem_map.mp hold
  · exact ⟨source, by simp, rfl⟩

/-- A source is put at the end, unless its name is recorded. -/
theorem Table.Lists.insertOrIgnore {t t' : Table} {sources : List Source} (ht : t.Lists sources)
    {source : Source} (h : t.insertOrIgnore (t.registryRow source) = .ok t') :
    t'.Lists (withSource sources source) := by
  have hnulls : t.checkNulls t.columns source.row = .ok () := by
    rw [ht.columns]
    rfl
  have hinsert : t.insert source.row =
      if source.name ∈ sources.map Source.name then .error (.keyTaken t.name nameColumn)
      else .ok { t with rows := t.rows.push source.row } := by
    rw [insert_of_references ht.columns.references, ht.columns.stored, hnulls, ht.checkDistinct]
    by_cases hmem : source.name ∈ sources.map Source.name
    · simp only [if_pos hmem]
      rfl
    · simp only [if_neg hmem]
      rfl
  rw [ht.columns.registryRow, Table.insertOrIgnore, hinsert] at h
  rw [withSource]
  by_cases hmem : source.name ∈ sources.map Source.name
  · rw [if_pos hmem] at h ⊢
    cases h
    exact ht
  · rw [if_neg hmem] at h ⊢
    cases h
    exact ⟨ht.columns, by simp [ht.rows]⟩

/-- The sources of another name are kept. -/
theorem Table.Lists.without {t : Table} {sources : List Source} (ht : t.Lists sources)
    (name : String) :
    (t.without 0 (.text name)).Lists (sources.filter fun source => source.name != name) := by
  refine ⟨ht.columns, ?_⟩
  have hrow : (fun row => !t.hasValue 0 (.text name) row) ∘ Source.row =
      fun source => source.name != name := by
    funext source
    rw [Bool.eq_iff_iff]
    simp [ht.columns.hasValue]
  simp [Table.without, ht.rows, List.filter_map, hrow]

/-! ### Databases with a registry -/

/-- The registry of the database lists some sources. -/
def Records (db : Database) (sources : List Source) : Prop :=
  ∃ t, db.table? registryTable = some t ∧ t.Lists sources

theorem Records.hasTable {db : Database} {sources : List Source} (h : db.Records sources) :
    db.hasTable registryTable = true := by
  obtain ⟨t, ht, -⟩ := h
  simp [Database.hasTable, ht]

/-- A database right after it was opened for the first time. -/
def fresh : Database :=
  { tables := [emptyRegistry], journal := .writeAhead }

theorem records_fresh : fresh.Records [] :=
  ⟨emptyRegistry, rfl, emptyRegistry_lists⟩

/-- What is recorded shows in the registry's table only. -/
theorem Records.of_table?_eq {db db' : Database} {sources : List Source}
    (h : db.Records sources) (heq : db'.table? registryTable = db.table? registryTable) :
    db'.Records sources := by
  obtain ⟨t, ht, hlists⟩ := h
  exact ⟨t, heq.trans ht, hlists⟩

/-- A source can always be recorded in a registry that has its columns. -/
theorem register_of_columns {db : Database} {t : Table} (source : Source)
    (ht : db.table? registryTable = some t) (hcolumns : t.HasRegistryColumns) :
    ∃ db', db.register source = .ok db' := by
  have hname : t.hasColumn nameColumn = true := by
    rw [Table.hasColumn, hcolumns]
    decide
  have hurl : t.hasColumn urlColumn = true := by
    rw [Table.hasColumn, hcolumns]
    decide
  have hwritable : db.writableRegistry = .ok t := by
    simp [writableRegistry, ht, hname, hurl]
  obtain ⟨t', hinsert⟩ := exists_insertOrIgnore hcolumns.references (t.registryRow source)
  exact ⟨_, register_eq_ok_iff.mpr ⟨t, t', hwritable, hinsert, rfl⟩⟩

/-- A name can always be taken out of a registry that has its columns. -/
theorem unregister_of_columns {db : Database} {t : Table} (name : String)
    (ht : db.table? registryTable = some t) (hcolumns : t.HasRegistryColumns) :
    db.unregister name = .ok (db.putTable (t.without 0 (.text name))) := by
  simp only [unregister, withoutRecord, ht, hcolumns.columnIndex?_name,
    delete_of_references hcolumns.references]
  rfl

/-- A name that is recorded stays as it is; any other source comes to the end. -/
theorem Records.register {db db' : Database} {sources : List Source} {source : Source}
    (h : db.Records sources) (hdb : db.register source = .ok db') :
    db'.Records (withSource sources source) := by
  obtain ⟨t, ht, hlists⟩ := h
  obtain ⟨u, t', hrewritten, hinsert⟩ := register_eq_ok hdb
  rw [hrewritten.found, Option.some.injEq] at ht
  subst ht
  exact ⟨t', hrewritten.table?_registry, hlists.insertOrIgnore hinsert⟩

/-- A name that is taken out is recorded no more, and nothing else changes. -/
theorem Records.unregister {db db' : Database} {sources : List Source} {name : String}
    (h : db.Records sources) (hdb : db.unregister name = .ok db') :
    db'.Records (sources.filter fun source => source.name != name) := by
  obtain ⟨t, ht, hlists⟩ := h
  obtain ⟨u, index, hindex, hrewritten⟩ := unregister_eq_ok hdb
  rw [hrewritten.found, Option.some.injEq] at ht
  subst ht
  rw [hlists.columns.columnIndex?_name, Option.some.injEq] at hindex
  subst hindex
  exact ⟨_, hrewritten.table?_registry, hlists.without name⟩

/-! ### Registries that somebody else created -/

/-- No column of the registry refers to another. -/
def RefersNowhere (db : Database) : Prop :=
  ∀ t ∈ db.table? registryTable, t.references = []

/-- The registry tells names apart letter by letter. -/
def ComparesExactly (db : Database) : Prop :=
  ∀ t ∈ db.table? registryTable, ∀ c ∈ t.columns,
    sameName c.name nameColumn = true → c.collation = .binary

instance (db : Database) : Decidable db.RefersNowhere :=
  inferInstanceAs (Decidable (∀ t ∈ db.table? registryTable, t.references = []))

instance (db : Database) : Decidable db.ComparesExactly :=
  inferInstanceAs (Decidable (∀ t ∈ db.table? registryTable, ∀ c ∈ t.columns,
    sameName c.name nameColumn = true → c.collation = .binary))

theorem Records.comparesExactly {db : Database} {sources : List Source} (h : db.Records sources) :
    db.ComparesExactly := by
  obtain ⟨registry, hregistry, hlists⟩ := h
  intro t ht c hc _
  obtain rfl : registry = t := Option.some.inj (hregistry.symm.trans ht)
  have hbinary : ∀ c ∈ emptyRegistry.columns, c.collation = .binary := by decide
  exact hbinary c (hlists.columns ▸ hc)

/-- Where a registry without references can be written, every source can be recorded in it. -/
theorem RefersNowhere.register {db : Database} (h : db.RefersNowhere) {t : Table}
    (hwritable : db.writableRegistry = .ok t) (source : Source) :
    ∃ db', db.register source = .ok db' := by
  obtain ⟨t', hinsert⟩ := exists_insertOrIgnore (h t (table?_of_writable hwritable))
    (t.registryRow source)
  exact ⟨_, register_eq_ok_iff.mpr ⟨t, t', hwritable, hinsert, rfl⟩⟩

/-! ### Reading the registry -/

/-- Sources in the order of their names. -/
def sortedByName (sources : List Source) : List Source :=
  sources.mergeSort fun a b => !(b.name < a.name)

/-- The entries of a registry come in the order of the names. -/
theorem Table.Lists.sortedPairs {t : Table} {sources : List Source} (ht : t.Lists sources) :
    t.sortedPairs 0 1 = (sortedByName sources).map Source.entry := by
  have hcollation : (t.columns[0]?.map ColumnDef.collation).getD .binary = .binary := by
    rw [ht.columns]
    rfl
  have hpairs : (sources.map Source.row).map (fun row => (row.getD 0 .null, row.getD 1 .null)) =
      sources.map Source.entry := by
    rw [List.map_map]
    rfl
  unfold Table.sortedPairs
  simp only [hcollation, ht.rows, hpairs]
  rw [sortedByName, List.map_mergeSort]
  intro a _ b _
  rfl

theorem Records.registryEntries {db : Database} {sources : List Source} (h : db.Records sources) :
    db.registryEntries = .ok ((sortedByName sources).map Source.entry) := by
  obtain ⟨t, ht, hlists⟩ := h
  simp only [Database.registryEntries, ht, hlists.columns.columnIndex?_name,
    hlists.columns.columnIndex?_url, hlists.sortedPairs]

/-- Listing the registry gives its sources, sorted. -/
theorem Records.registered {db : Database} {sources : List Source} (h : db.Records sources) :
    db.registered = .ok (sortedByName sources) := by
  have hread : ((sortedByName sources).map Source.entry).mapM readSource =
      .ok (sortedByName sources) := by
    have hentry : ∀ source ∈ sortedByName sources,
        (readSource ∘ Source.entry) source = .ok (id source) := fun _ _ => rfl
    rw [List.mapM_map, mapM_eq_ok hentry, List.map_id]
  rw [Database.registered, h.registryEntries, mapError_ok, ok_bind, hread]
  rfl

/-- The status of a table that is there tells the number of its rows. -/
theorem statusOf_of_table? {db : Database} {source : Source} {t : Table}
    (ht : db.table? source.name = some t) :
    db.statusOf source = .ok ⟨source, some t.rows.size⟩ := by
  simp [statusOf, Database.hasTable, rowCount, ht]

end Database
end DatasetSync
