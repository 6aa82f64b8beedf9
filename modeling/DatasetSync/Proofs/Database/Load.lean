/-
What a load does, and what a failed one does not.

A transaction keeps the database of its beginning through all of its work: every
statement, every row and every batch only changes the database it works on.  So a
load that fails, wherever that happens, ends in the database it began with.

A load that comes out well went through all its statements.  They are taken apart
once, into the databases that lie between them: the one from which an older table
is cleared, the one in which the source is recorded, and that one with the filled
table behind its others.
-/
import DatasetSync.Proofs.Database.Registry
import DatasetSync.Proofs.Database.Rows

namespace DatasetSync.Database

open Text (sameName)

/-! ### The database of the beginning -/

namespace Transaction

/-- Statements leave the database of the beginning alone, also those before a refused one. -/
theorem run_before (tx : Transaction) (changes : List Change) :
    (tx.run changes).2.before = tx.before := by
  induction changes generalizing tx with
  | nil => rfl
  | cons change rest ih =>
      rw [run]
      split
      · rfl
      · rw [ih]

theorem fill_before (tx : Transaction) (s : Schema) (d : Dataset) :
    (tx.fill s d).2.1.before = tx.before := by
  unfold fill
  split <;> rfl

theorem work_before (tx : Transaction) (source : Source) (s : Schema) (d : Dataset)
    (replace : Bool) : (tx.work source s d replace).2.1.before = tx.before := by
  have hrun := tx.run_before (preparations source s replace)
  unfold work
  split
  · rename_i heq
    rw [heq] at hrun
    exact hrun
  · rename_i heq
    rw [heq] at hrun
    rw [fill_before]
    exact hrun

end Transaction

/-- A load that fails leaves the database that it began with. -/
theorem database_load_of_error {db : Database} {source : Source} {s : Schema} {d : Dataset}
    {replace : Bool} {failure : Failure}
    (h : (db.load source s d replace).result = .error failure) :
    (db.load source s d replace).database = db := by
  have hbefore := (Transaction.start db).work_before source s d replace
  unfold load at h ⊢
  have hresult : ((Transaction.start db).work source s d replace).1 = .error failure := h
  show Transaction.finish _ _ = db
  rw [hresult]
  exact hbefore

/-! ### The statements of a load -/

theorem run_nil_eq_ok {tx tx' : Transaction} : tx.run [] = (.ok (), tx') ↔ tx' = tx := by
  simp [Transaction.run, eq_comm]

theorem run_cons_eq_ok {tx tx' : Transaction} {change : Change} {rest : List Change} :
    tx.run (change :: rest) = (.ok (), tx') ↔
      ∃ db, change tx.current = .ok db ∧
        Transaction.run { tx with current := db } rest = (.ok (), tx') := by
  rw [Transaction.run]
  split
  · simp [*]
  · simp [*]

/-- An older table was dropped and taken out of the registry, if it was to be replaced. -/
inductive Cleared (db : Database) (name : String) : Bool → Database → Prop
  | keep : Cleared db name false db
  | replace {dropped cleared : Database} (hdrop : db.dropTable true name = .ok dropped)
      (hunregister : dropped.unregister name = .ok cleared) : Cleared db name true cleared

/-- The databases between the statements of a load: the one without the older table, and the one
in which the source is recorded, where the table's name is free. -/
structure Stages (db : Database) (source : Source) (s : Schema) (replace : Bool)
    (cleared registered : Database) : Prop where
  clearing : db.Cleared s.name replace cleared
  recording : cleared.register source = .ok registered
  creation : registered.createTable s = .ok (registered.withTable (Table.ofSchema s))

theorem Stages.isFree {db cleared registered : Database} {source : Source} {s : Schema}
    {replace : Bool} (h : db.Stages source s replace cleared registered) :
    registered.IsFree s.name :=
  (createTable_eq_ok h.creation).1

/-! ### What the statements of a load leave alone

Clearing an older table takes its name out of the registry, so where it comes out well the registry
is there; and so it is where a source was recorded.  The name of the new table is free then, hence
not a spelling of the registry's.
-/

/-- The registry is the same before and after a drop, if a name is taken out of it then: it did not
go along. -/
theorem table?_registry_of_drop {db dropped cleared : Database} {name : String}
    (hdrop : db.dropTable true name = .ok dropped)
    (hunregister : dropped.unregister name = .ok cleared) :
    dropped.table? registryTable = db.table? registryTable := by
  obtain ⟨t, _, -, hrewritten⟩ := unregister_eq_ok hunregister
  rw [hrewritten.found, table?_of_dropTable hdrop hrewritten.found]

namespace Cleared

variable {db cleared : Database} {name other : String} {replace : Bool}

theorem views (h : db.Cleared name replace cleared) : cleared.views = db.views := by
  cases h with
  | keep => rfl
  | replace hdrop hunregister =>
      obtain ⟨_, _, -, hrewritten⟩ := unregister_eq_ok hunregister
      rw [hrewritten.views, views_dropTable hdrop]

theorem indexes_sublist (h : db.Cleared name replace cleared) :
    cleared.indexes.Sublist db.indexes := by
  cases h with
  | keep => exact List.Sublist.refl _
  | replace hdrop hunregister =>
      obtain ⟨_, _, -, hrewritten⟩ := unregister_eq_ok hunregister
      rw [hrewritten.indexes]
      exact indexes_dropTable hdrop

theorem noVirtualTables (h : db.Cleared name replace cleared) (hdb : db.NoVirtualTables) :
    cleared.NoVirtualTables := by
  cases h with
  | keep => exact hdb
  | replace hdrop hunregister =>
      obtain ⟨_, _, -, hrewritten⟩ := unregister_eq_ok hunregister
      exact hrewritten.noVirtualTables fun t ht => hdb t ((tables_dropTable hdrop).subset ht)

/-- Clearing a table takes away what has its name, and nothing else but a row of the registry, where
no table keeps its content in others. -/
theorem table?_of_ne (h : db.Cleared name replace cleared) (hdb : db.NoVirtualTables)
    (hname : sameName other name = false) (hregistry : sameName other registryTable = false) :
    cleared.table? other = db.table? other := by
  cases h with
  | keep => rfl
  | replace hdrop hunregister =>
      obtain ⟨_, _, -, hrewritten⟩ := unregister_eq_ok hunregister
      rw [hrewritten.table?_of_ne hregistry, hdb.table?_dropTable_of_ne hdrop hname]

theorem hasTable_of_ne (h : db.Cleared name replace cleared) (hdb : db.NoVirtualTables)
    (hname : sameName other name = false) : cleared.hasTable other = db.hasTable other := by
  cases h with
  | keep => rfl
  | replace hdrop hunregister =>
      obtain ⟨_, _, -, hrewritten⟩ := unregister_eq_ok hunregister
      rw [hrewritten.hasTable, Database.hasTable, hdb.table?_dropTable_of_ne hdrop hname]
      rfl

end Cleared

/-- What is recorded when an older table was cleared: all but its name. -/
def keptSources (sources : List Source) (name : String) (replace : Bool) : List Source :=
  if replace then sources.filter fun source => source.name != name else sources

theorem mem_keptSources {sources : List Source} {source : Source} {name : String} {replace : Bool}
    (h : source ∈ sources) (hname : source.name ≠ name) :
    source ∈ keptSources sources name replace := by
  unfold keptSources
  split
  · exact List.mem_filter.mpr ⟨h, bne_iff_ne.mpr hname⟩
  · exact h

theorem mem_of_mem_keptSources {sources : List Source} {source : Source} {name : String}
    {replace : Bool} (h : source ∈ keptSources sources name replace) : source ∈ sources := by
  unfold keptSources at h
  split at h
  · exact (List.mem_filter.mp h).1
  · exact h

/-- A source is recorded at the end, in place of an older one of its name, if the name was cleared or
was not recorded at all. -/
theorem withSource_keptSources {sources : List Source} {source : Source} {replace : Bool}
    (h : replace = true ∨ source.name ∉ sources.map Source.name) :
    withSource (keptSources sources source.name replace) source =
      sources.filter (fun other => other.name != source.name) ++ [source] := by
  have hkept : keptSources sources source.name replace =
      sources.filter fun other => other.name != source.name := by
    cases replace with
    | true => rfl
    | false =>
        have hnew : source.name ∉ sources.map Source.name := by simpa using h
        refine (List.filter_eq_self.mpr fun other hother => ?_).symm
        rw [bne_iff_ne]
        intro hname
        exact hnew (List.mem_map.mpr ⟨other, hother, hname⟩)
  have hgone : source.name ∉ (sources.filter fun other => other.name != source.name).map
      Source.name := by
    simp
  rw [hkept, withSource, if_neg hgone]

theorem Cleared.records {db cleared : Database} {sources : List Source} {name : String}
    {replace : Bool} (h : db.Cleared name replace cleared) (hdb : db.Records sources) :
    cleared.Records (keptSources sources name replace) := by
  cases h with
  | keep => exact hdb
  | replace hdrop hunregister =>
      exact (hdb.of_table?_eq (table?_registry_of_drop hdrop hunregister)).unregister hunregister

section Stages

variable {db cleared registered : Database} {source : Source} {s : Schema} {replace : Bool}
  {t : Table}

/-- A loaded table is not the registry. -/
theorem Stages.not_registry (h : db.Stages source s replace cleared registered) :
    sameName s.name registryTable = false := by
  obtain ⟨_, _, hrewritten, -⟩ := register_eq_ok h.recording
  have hthere := hrewritten.hasTable_registry
  rw [Bool.eq_false_iff]
  intro hsame
  rw [← hasTable_congr registered hsame, hasTable_eq_false_iff.mpr h.isFree.noTable] at hthere
  contradiction

theorem Stages.views (h : db.Stages source s replace cleared registered) :
    (registered.withTable t).views = db.views := by
  obtain ⟨_, _, hrewritten, -⟩ := register_eq_ok h.recording
  exact hrewritten.views.trans h.clearing.views

theorem Stages.indexes_sublist (h : db.Stages source s replace cleared registered) :
    (registered.withTable t).indexes.Sublist db.indexes := by
  obtain ⟨_, _, hrewritten, -⟩ := register_eq_ok h.recording
  show registered.indexes.Sublist db.indexes
  rw [hrewritten.indexes]
  exact h.clearing.indexes_sublist

theorem Stages.noVirtualTables (h : db.Stages source s replace cleared registered)
    (ht : t.shadows = []) (hdb : db.NoVirtualTables) :
    (registered.withTable t).NoVirtualTables := by
  obtain ⟨_, _, hrewritten, -⟩ := register_eq_ok h.recording
  intro u hu
  rcases List.mem_append.mp hu with hu | hu
  · exact hrewritten.noVirtualTables (h.clearing.noVirtualTables hdb) u hu
  · rw [List.mem_singleton.mp hu, ht]

theorem Stages.table?_of_ne (h : db.Stages source s replace cleared registered)
    (hdb : db.NoVirtualTables) (ht : t.name = s.name) {other : String}
    (hname : sameName other s.name = false) (hregistry : sameName other registryTable = false) :
    (registered.withTable t).table? other = db.table? other := by
  obtain ⟨_, _, hrewritten, -⟩ := register_eq_ok h.recording
  have hnew : sameName t.name other = false := by rw [ht, Text.sameName_comm, hname]
  rw [table?_withTable_of_ne _ hnew, hrewritten.table?_of_ne hregistry,
    h.clearing.table?_of_ne hdb hname hregistry]

theorem Stages.hasTable (h : db.Stages source s replace cleared registered) (other : String) :
    (registered.withTable t).hasTable other =
      (cleared.hasTable other || sameName t.name other) := by
  obtain ⟨_, _, hrewritten, -⟩ := register_eq_ok h.recording
  rw [hasTable_withTable, hrewritten.hasTable]

/-- The registry after a load has the columns that it had before. -/
theorem Stages.columns_registry (h : db.Stages source s replace cleared registered)
    (ht : t.name = s.name) :
    ∃ before after, db.table? registryTable = some before ∧
      (registered.withTable t).table? registryTable = some after ∧
      after.columns = before.columns := by
  obtain ⟨kept, after, hrecorded, -⟩ := register_eq_ok h.recording
  have hnew : sameName t.name registryTable = false := by rw [ht]; exact h.not_registry
  have hafter : (registered.withTable t).table? registryTable = some after := by
    rw [table?_withTable_of_ne registered hnew, hrecorded.table?_registry]
  have hkept := hrecorded.found
  cases h.clearing with
  | keep => exact ⟨kept, after, hkept, hafter, hrecorded.same.columns⟩
  | replace hdrop hunregister =>
      obtain ⟨before, _, -, hcleared⟩ := unregister_eq_ok hunregister
      rw [hcleared.table?_registry, Option.some.injEq] at hkept
      refine ⟨before, after, table?_of_dropTable hdrop hcleared.found, hafter, ?_⟩
      rw [hrecorded.same.columns, ← hkept]
      rfl

theorem Stages.comparesExactly (h : db.Stages source s replace cleared registered)
    (ht : t.name = s.name) (hdb : db.ComparesExactly) :
    (registered.withTable t).ComparesExactly := by
  obtain ⟨before, after, hbefore, hafter, hcolumns⟩ := h.columns_registry ht
  intro u hu
  obtain rfl : after = u := Option.some.inj (hafter.symm.trans hu)
  rw [hcolumns]
  exact hdb before hbefore

theorem Stages.table?_self (h : db.Stages source s replace cleared registered)
    (ht : t.name = s.name) : (registered.withTable t).table? s.name = some t := by
  rw [← ht]
  exact table?_withTable_self (by rw [ht]; exact h.isFree.noTable)

/-- What is recorded after a load: the source, unless its name was recorded and not cleared. -/
theorem Stages.records (h : db.Stages source s replace cleared registered) (ht : t.name = s.name)
    {sources : List Source} (hdb : db.Records sources) :
    (registered.withTable t).Records (withSource (keptSources sources s.name replace) source) := by
  refine ((h.clearing.records hdb).register h.recording).of_table?_eq ?_
  exact table?_withTable_of_ne registered (by rw [ht]; exact h.not_registry)

end Stages

/-! ### Loads step by step -/

/-- The statements before the rows come out well exactly if each of them does. -/
theorem run_preparations_eq_ok {tx tx' : Transaction} {source : Source} {s : Schema}
    {replace : Bool} :
    tx.run (preparations source s replace) = (.ok (), tx') ↔
      ∃ cleared registered, tx.current.Stages source s replace cleared registered ∧
        tx' = ⟨tx.before, registered.withTable (Table.ofSchema s)⟩ := by
  cases replace with
  | false =>
      simp only [preparations, Bool.false_eq_true, if_false, List.nil_append, run_cons_eq_ok,
        run_nil_eq_ok, mapError_eq_ok]
      constructor
      · rintro ⟨registered, hregistered, created, hcreated, rfl⟩
        obtain ⟨-, rfl⟩ := createTable_eq_ok hcreated
        exact ⟨tx.current, registered, ⟨.keep, hregistered, hcreated⟩, rfl⟩
      · rintro ⟨cleared, registered, ⟨hcleared, hregistered, hcreated⟩, rfl⟩
        cases hcleared
        exact ⟨registered, hregistered, _, hcreated, rfl⟩
  | true =>
      simp only [preparations, if_true, List.cons_append, List.nil_append, run_cons_eq_ok,
        run_nil_eq_ok, mapError_eq_ok]
      constructor
      · rintro ⟨dropped, hdropped, cleared, hcleared, registered, hregistered, created, hcreated,
          rfl⟩
        obtain ⟨-, rfl⟩ := createTable_eq_ok hcreated
        exact ⟨cleared, registered, ⟨.replace hdropped hcleared, hregistered, hcreated⟩, rfl⟩
      · rintro ⟨cleared, registered, ⟨hcleared, hregistered, hcreated⟩, rfl⟩
        cases hcleared with
        | replace hdropped hunregistered =>
            exact ⟨_, hdropped, cleared, hunregistered, registered, hregistered, _, hcreated, rfl⟩

/-! ### Loads that come out well -/

/-- The table of a schema with the rows of a dataset in it. -/
def Table.ofDataset (s : Schema) (d : Dataset) : Table :=
  (Table.ofSchema s).append (d.rows.map s.readRow)

/-- With rows that the schema describes, the statements before the rows decide. -/
theorem work_of_describes (tx : Transaction) {source : Source} {s : Schema} {d : Dataset}
    {replace : Bool} {cleared registered : Database} (hrows : ∀ row ∈ d.rows, s.Describes row)
    (h : tx.current.Stages source s replace cleared registered) :
    ∃ events, tx.work source s d replace =
      (.ok d.rowCount, ⟨tx.before, registered.withTable (Table.ofDataset s d)⟩, events) := by
  have hnone : registered.table? s.name = none := h.isFree.noTable
  have hfound : (registered.withTable (Table.ofSchema s)).table? s.name =
      some (Table.ofSchema s) := table?_withTable_self (t := Table.ofSchema s) hnone
  have hfilled : (registered.withTable (Table.ofSchema s)).putTable (Table.ofDataset s d) =
      registered.withTable (Table.ofDataset s d) :=
    putTable_withTable (t := Table.ofSchema s) rfl hnone
  obtain ⟨events, hfill⟩ :=
    fill_of_describes ⟨tx.before, registered.withTable (Table.ofSchema s)⟩ hfound rfl hrows
  refine ⟨events, ?_⟩
  rw [Transaction.work, run_preparations_eq_ok.mpr ⟨cleared, registered, h, rfl⟩]
  show Transaction.fill _ s d = _
  rw [hfill, ← hfilled]
  rfl

/-- A load whose statements before the rows come out well comes out well. -/
theorem load_of_stages {db : Database} {source : Source} {s : Schema} {d : Dataset}
    {replace : Bool} {cleared registered : Database} (hrows : ∀ row ∈ d.rows, s.Describes row)
    (h : db.Stages source s replace cleared registered) :
    (db.load source s d replace).result = .ok d.rowCount ∧
      (db.load source s d replace).database = registered.withTable (Table.ofDataset s d) := by
  obtain ⟨events, hwork⟩ := work_of_describes (Transaction.start db) hrows h
  simp [load, hwork, Transaction.finish]

/-- **What a load that comes out well leaves**, with rows that the schema describes: the database
in which the source is recorded, with the table of the dataset behind its others. -/
theorem load_eq_ok {db : Database} {source : Source} {s : Schema} {d : Dataset} {replace : Bool}
    {n : Nat} (hrows : ∀ row ∈ d.rows, s.Describes row)
    (h : (db.load source s d replace).result = .ok n) :
    n = d.rowCount ∧ ∃ cleared registered, db.Stages source s replace cleared registered ∧
      (db.load source s d replace).database = registered.withTable (Table.ofDataset s d) := by
  have hwork : ((Transaction.start db).work source s d replace).1 = .ok n := h
  -- The work came out well, so the statements before the rows did.
  have hstages : ∃ cleared registered, db.Stages source s replace cleared registered := by
    unfold Transaction.work at hwork
    split at hwork
    · contradiction
    · rename_i tx hrun
      obtain ⟨cleared, registered, hstages, -⟩ := run_preparations_eq_ok.mp hrun
      exact ⟨cleared, registered, hstages⟩
  obtain ⟨cleared, registered, hstages⟩ := hstages
  obtain ⟨hresult, hdatabase⟩ := load_of_stages hrows hstages
  rw [hresult, Except.ok.injEq] at h
  exact ⟨h.symm, cleared, registered, hstages, hdatabase⟩

/-! ### Loads that are refused -/

/-- In a database with a registry, recording a source takes no name. -/
theorem isFree_of_register {db registered : Database} {source : Source} {t : Table} {name : String}
    (hregistry : db.table? registryTable = some t) (hname : isTableName name = true)
    (htable : db.table? name = none) (hview : db.view? name = none)
    (hindex : db.index? name = none) (hregister : db.register source = .ok registered) :
    registered.IsFree name := by
  have hother : sameName name registryTable = false := by
    rw [Bool.eq_false_iff]
    intro hsame
    rw [table?_congr db hsame, hregistry] at htable
    contradiction
  obtain ⟨_, _, hrewritten, -⟩ := register_eq_ok hregister
  refine ⟨nul_not_mem_of_isTableName hname, not_isInternalName_of_isTableName hname, ?_, ?_, ?_⟩
  · rw [hrewritten.table?_of_ne hother, htable]
  · rw [view?, hrewritten.views]
    exact hview
  · rw [index?, hrewritten.indexes]
    exact hindex

/-- A load whose table is not created fails with the reason why. -/
theorem load_of_refused {db cleared registered : Database} {source : Source} {s : Schema}
    {d : Dataset} {replace : Bool} {fault : Fault} (hcleared : db.Cleared s.name replace cleared)
    (hregistered : cleared.register source = .ok registered)
    (hrefused : registered.createTable s = .error fault) :
    (db.load source s d replace).result =
      .error ⟨[.creatingTable s.name], .database fault⟩ := by
  have hrun : (Transaction.start db).run (preparations source s replace) =
      (.error ⟨[.creatingTable s.name], .database fault⟩, ⟨db, registered⟩) := by
    cases hcleared with
    | keep =>
        simp [preparations, Transaction.run, Transaction.start, hregistered, hrefused,
          mapError_error]
    | replace hdrop hunregister =>
        simp [preparations, Transaction.run, Transaction.start, hdrop, hunregister, hregistered,
          hrefused, mapError_ok, mapError_error]
  simp [load, Transaction.work, hrun]

/-- A load that does not replace anything fails with the reason why its table is not created. -/
theorem load_of_not_created {db registered : Database} {source : Source} {s : Schema}
    {d : Dataset} {fault : Fault} (hregistered : db.register source = .ok registered)
    (hrefused : registered.createTable s = .error fault) :
    (db.load source s d false).result = .error ⟨[.creatingTable s.name], .database fault⟩ :=
  load_of_refused .keep hregistered hrefused

/-- A load in place of the registry fails: without it, nothing can be taken out of it. -/
theorem load_of_registry {db : Database} {t : Table} (hregistry : db.table? registryTable = some t)
    (hview : db.view? registryTable = none) {source : Source} {s : Schema} (d : Dataset)
    (hname : isTableName s.name = true) (hsame : sameName s.name registryTable = true) :
    (db.load source s d true).result =
      .error ⟨[.unregistering s.name], .database (.noSuchTable registryTable)⟩ := by
  have hthere : db.table? s.name = some t := by rw [table?_congr db hsame, hregistry]
  have hdrop := dropTable_of_table? (nul_not_mem_of_isTableName hname) hthere
  generalize hdropped : Database.mk _ _ _ _ = dropped at hdrop
  have hnone : dropped.table? registryTable = none := by
    rw [← table?_congr dropped hsame, table?_dropTable hdrop]
  have hnoview : dropped.view? registryTable = none := by
    rw [view?, views_dropTable hdrop]
    exact hview
  have hunregister : dropped.unregister s.name =
      .error ⟨[.unregistering s.name], .database (.noSuchTable registryTable)⟩ := by
    simp [unregister, withoutRecord, hnone, hnoview, mapError_error]
  have hrun : (Transaction.start db).run (preparations source s true) =
      (.error ⟨[.unregistering s.name], .database (.noSuchTable registryTable)⟩,
        ⟨db, dropped⟩) := by
    simp [preparations, Transaction.run, Transaction.start, hdrop, hunregister, mapError_ok]
  simp [load, Transaction.work, hrun]

end DatasetSync.Database
