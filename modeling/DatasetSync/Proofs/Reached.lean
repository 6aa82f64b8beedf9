/-
What holds of every database that runs can reach.

The registry compares names letter by letter and the database without regard to
case, yet the two stay in step: what is recorded has a table, and what has a table
is recorded, under some spelling of its name.  A load breaks this for its own name
only, between the statement that drops the old table and the one that creates the
new one.  So the invariant is carried through a load with that one name left out,
and put together again at its end.

The registry itself survives a forced load that spells its name differently.  Such
a load drops it and then cannot take the name out of it, so it fails, and a load
that fails changes nothing.
-/
import DatasetSync.Files.Databases
import DatasetSync.Proofs.Runs

namespace DatasetSync

open Text (sameName)

/-! ### Reached databases -/

/-- Databases that can be reached from a new one by runs over any sources, whatever is provided,
and by opening the database again. -/
inductive Reached : Database → Prop
  | opened {db : Database} (h : Files.configure {} = .ok db) : Reached db
  | reopened {db db' : Database} (hdb : Reached db) (h : Files.configure db = .ok db') : Reached db'
  | run {π δ : Type} (provider : Provider π) (display : Display δ) (options : IngestOptions)
    (run : Run π δ) (sources : List Source) (h : Reached run.database) :
    Reached (ingestAll provider display options run sources).2.database

namespace Database

/-! ### In step but for one name -/

/-- No table is virtual, and the registry is there and lists some sources.  Apart from one name, these
are the ones with a table, and every table but the registry's is one of theirs. -/
structure InStepBut (db : Database) (sources : List Source) (name : String) : Prop where
  ordinary : db.NoVirtualTables
  records : db.Records sources
  tabled : ∀ source ∈ sources, sameName source.name name = false →
    db.hasTable source.name = true
  recorded : ∀ other, db.hasTable other = true → sameName other registryTable = false →
    sameName other name = false → ∃ source ∈ sources, sameName source.name other = true

/-- No table is virtual, and the registry is there.  The sources that it lists are the ones with a
table; every table but the registry's is one of theirs. -/
structure InStep (db : Database) (sources : List Source) : Prop where
  ordinary : db.NoVirtualTables
  records : db.Records sources
  tabled : ∀ source ∈ sources, db.hasTable source.name = true
  recorded : ∀ other, db.hasTable other = true → sameName other registryTable = false →
    ∃ source ∈ sources, sameName source.name other = true

/-- Clearing a table takes nothing out of step but its own name. -/
theorem InStep.cleared {db cleared : Database} {sources : List Source} {name : String}
    {replace : Bool} (h : db.InStep sources) (hcleared : db.Cleared name replace cleared) :
    cleared.InStepBut (keptSources sources name replace) name where
  ordinary := hcleared.noVirtualTables h.ordinary
  records := hcleared.records h.records
  tabled source hsource hother := by
    rw [hcleared.hasTable_of_ne h.ordinary hother]
    exact h.tabled source (mem_of_mem_keptSources hsource)
  recorded other hthere hnotregistry hother := by
    rw [hcleared.hasTable_of_ne h.ordinary hother] at hthere
    obtain ⟨source, hsource, hspelled⟩ := h.recorded other hthere hnotregistry
    refine ⟨source, mem_keptSources hsource ?_, hspelled⟩
    -- A source of the name that was taken out would be a spelling of it.
    intro hname
    rw [hname, Text.sameName_comm, hother] at hspelled
    contradiction

/-- Recording a source of the name takes nothing out of step. -/
theorem InStepBut.register {db registered : Database} {sources : List Source} {source : Source}
    {name : String} (h : db.InStepBut sources name) (hregister : db.register source = .ok registered)
    (hname : sameName source.name name = true) :
    registered.InStepBut (withSource sources source) name := by
  obtain ⟨_, _, hrewritten, -⟩ := register_eq_ok hregister
  refine ⟨hrewritten.noVirtualTables h.ordinary, h.records.register hregister, ?_, ?_⟩
  · intro s hs hother
    rw [hrewritten.hasTable]
    rcases mem_withSource hs with hs | rfl
    · exact h.tabled s hs hother
    · rw [hname] at hother
      contradiction
  · intro other hthere hnotregistry hother
    rw [hrewritten.hasTable] at hthere
    obtain ⟨s, hs, hspelled⟩ := h.recorded other hthere hnotregistry hother
    exact ⟨s, mem_withSource_of_mem source hs, hspelled⟩

/-- The new table brings its name back into step. -/
theorem InStepBut.withTable {db : Database} {sources : List Source} {t : Table}
    (h : db.InStepBut sources t.name) (hordinary : t.shadows = []) (hnone : db.table? t.name = none)
    (hrecorded : ∃ s ∈ sources, s.name = t.name) : (db.withTable t).InStep sources := by
  have hregistry : sameName t.name registryTable = false := by
    rw [Bool.eq_false_iff]
    intro hsame
    have hthere := h.records.hasTable
    rw [← hasTable_congr db hsame, hasTable_eq_false_iff.mpr hnone] at hthere
    contradiction
  refine ⟨?_, h.records.of_table?_eq (table?_withTable_of_ne db hregistry), ?_, ?_⟩
  · intro u hu
    rcases List.mem_append.mp hu with hu | hu
    · exact h.ordinary u hu
    · rw [List.mem_singleton.mp hu, hordinary]
  · intro source hsource
    rw [hasTable_withTable, Bool.or_eq_true]
    cases hsame : sameName t.name source.name with
    | true => exact Or.inr rfl
    | false =>
        rw [Text.sameName_comm] at hsame
        exact Or.inl (h.tabled source hsource hsame)
  · intro other hthere hnotregistry
    rw [hasTable_withTable, Bool.or_eq_true] at hthere
    cases hsame : sameName t.name other with
    | true =>
        obtain ⟨source, hsource, hname⟩ := hrecorded
        exact ⟨source, hsource, by rw [hname, hsame]⟩
    | false =>
        have hold : db.hasTable other = true := by simpa [hsame] using hthere
        rw [Text.sameName_comm] at hsame
        exact h.recorded other hold hnotregistry hsame

/-! ### In step -/

theorem inStep_fresh : fresh.InStep [] := by
  refine ⟨by decide, records_fresh, by simp, ?_⟩
  intro other hthere hnotregistry
  obtain ⟨t, ht, hname⟩ := hasTable_iff.mp hthere
  have hregistry : t = emptyRegistry := by simpa [fresh] using ht
  rw [hregistry, Text.sameName_comm] at hname
  rw [show sameName other registryTable = true from hname] at hnotregistry
  contradiction

/-- A load that comes out well keeps the registry and the tables in step. -/
theorem InStep.load {db cleared registered : Database} {sources : List Source} {source : Source}
    {s : Schema} {replace : Bool} {t : Table} (h : db.InStep sources)
    (hstages : db.Stages source s replace cleared registered) (hschema : s.name = source.name)
    (ht : t.name = s.name) (hordinary : t.shadows = []) :
    (registered.withTable t).InStep (withSource (keptSources sources s.name replace) source) := by
  have hregistered := (h.cleared hstages.clearing).register hstages.recording
    (by rw [hschema]; exact Text.sameName_self _)
  have hrecorded := exists_name_withSource (keptSources sources s.name replace) source
  have hnone := hstages.isFree.noTable
  rw [← hschema] at hrecorded
  rw [← ht] at hregistered hrecorded hnone ⊢
  exact hregistered.withTable hordinary hnone hrecorded

/-- A step that loads a source records it last, in place of an older one of its name: without a
table, its name was not recorded. -/
theorem InStep.loaded {π : Type} {provider : Provider π} {options : IngestOptions} {db : Database}
    {state : π} {source : Source} {payload : List UInt8} {d : Dataset}
    {cleared registered : Database} {sources : List Source} (h : db.InStep sources)
    (hloads : Loads provider options db state source payload d cleared registered) :
    (registered.withTable (Table.ofDataset (Schema.infer source.name d) d)).InStep
      (sources.filter (fun other => other.name != source.name) ++ [source]) := by
  have hcleared : db.hasTable source.name = true ∨ source.name ∉ sources.map Source.name := by
    cases hthere : db.hasTable source.name with
    | true => exact Or.inl rfl
    | false =>
        refine Or.inr fun hmem => ?_
        obtain ⟨other, hother, hname⟩ := List.mem_map.mp hmem
        have := h.tabled other hother
        rw [hname, hthere] at this
        contradiction
  rw [← withSource_keptSources hcleared]
  exact h.load hloads.stages rfl rfl rfl

/-- Making a database with a registry ready for loading changes only how it is written. -/
theorem Records.configure {db : Database} {sources : List Source} (h : db.Records sources) :
    Files.configure db = .ok { db with journal := .writeAhead } := by
  have hthere : ({ db with journal := .writeAhead } : Database).hasTable registryTable = true :=
    h.hasTable
  rw [Files.configure, ensureRegistry, hthere]
  rfl

theorem InStep.configure {db db' : Database} {sources : List Source} (h : db.InStep sources)
    (hconfigured : Files.configure db = .ok db') : db'.InStep sources := by
  rw [h.records.configure] at hconfigured
  cases hconfigured
  exact ⟨h.ordinary, h.records, h.tabled, h.recorded⟩

end Database

/-- One step keeps the registry and the tables in step. -/
theorem ingestSource_inStep {π : Type} (provider : Provider π) (options : IngestOptions)
    (db : Database) (state : π) (source : Source) (h : ∃ sources, db.InStep sources) :
    ∃ sources, (ingestSource provider options db state source).database.InStep sources := by
  refine database_ingestSource_of_loads (P := fun db => ∃ sources, db.InStep sources) h ?_
  intro payload d cleared registered hloads
  obtain ⟨sources, hdb⟩ := h
  exact ⟨_, hdb.loaded hloads⟩

/-- Every reached database is in step. -/
theorem Reached.inStep {db : Database} (h : Reached db) : ∃ sources, db.InStep sources := by
  induction h with
  | opened h =>
      cases h
      exact ⟨[], Database.inStep_fresh⟩
  | reopened _ h ih =>
      obtain ⟨sources, hdb⟩ := ih
      exact ⟨sources, hdb.configure h⟩
  | run provider display options run sources _ ih =>
      exact ingestAll_preserves display (ingestSource_inStep provider options) run sources ih

/-! ### The status -/

namespace Database

/-- A recorded source with the number of rows of its table, if there is one. -/
def entryOf (db : Database) (source : Source) : Status :=
  ⟨source, (db.table? source.name).map fun t => t.rows.size⟩

/-- When registry and tables are in step, the status has an entry with a number of rows for each
recorded source, ordered by name. -/
theorem InStep.status {db : Database} {sources : List Source} (h : db.InStep sources) :
    db.status = .ok ((sortedByName sources).map db.entryOf) := by
  have hentry : ∀ source ∈ sortedByName sources, db.statusOf source = .ok (db.entryOf source) := by
    intro source hsource
    have hthere := h.tabled source (List.mem_mergeSort.mp hsource)
    obtain ⟨t, ht⟩ := Option.isSome_iff_exists.mp hthere
    rw [statusOf_of_table? ht, entryOf, ht]
    rfl
  rw [Database.status, if_pos h.records.hasTable, h.records.registered]
  exact mapM_eq_ok hentry

end Database

/-- **Registry and tables stay in step.**  However many runs there were and however they ended, the
registry is there with its own columns, what it lists has a table, every other table is listed, and
the status reports a number of rows for every entry. -/
theorem registry_in_step_of_reached {db : Database} (h : Reached db) :
    ∃ sources, db.Records sources ∧
      (∀ source ∈ sources, db.hasTable source.name = true) ∧
      (∀ t ∈ db.tables, sameName t.name registryTable = false →
        ∃ source ∈ sources, sameName source.name t.name = true) ∧
      ∃ entries, db.status = .ok entries ∧ (entries.map Database.Status.source).Perm sources ∧
        ∀ entry ∈ entries, ∃ t, db.table? entry.source.name = some t ∧
          entry.rows = some t.rows.size := by
  obtain ⟨sources, hdb⟩ := h.inStep
  refine ⟨sources, hdb.records, hdb.tabled, ?_, _, hdb.status, ?_, ?_⟩
  · intro t ht hnotregistry
    have hthere : db.hasTable t.name = true :=
      Database.hasTable_iff.mpr ⟨t, ht, Text.sameName_self _⟩
    exact hdb.recorded t.name hthere hnotregistry
  · rw [List.map_map]
    show ((Database.sortedByName sources).map id).Perm sources
    rw [List.map_id]
    exact List.mergeSort_perm _ _
  · intro entry hentry
    obtain ⟨source, hsource, rfl⟩ := List.mem_map.mp hentry
    have hthere := hdb.tabled source (List.mem_mergeSort.mp hsource)
    obtain ⟨t, ht⟩ := Option.isSome_iff_exists.mp hthere
    exact ⟨t, ht, by rw [Database.entryOf, ht]; rfl⟩

/-- Payloads for three sources. -/
def somePayloads : List (String × List UInt8) :=
  [("Types", "id\n1\n".toUTF8.toList), ("types", "id\n2\n3\n".toUTF8.toList),
    ("DATA_SOURCES", "id\n4\n".toUTF8.toList)]

/-- A first run loads a table. -/
def firstRun : Run (List (String × List UInt8)) Unit :=
  (ingestAll Provider.memory Display.none {} ⟨Database.fresh, somePayloads, (), []⟩
    [⟨"Types", "https://example.org/1"⟩]).2

/-- A second run, forced, replaces it under another spelling, and fails over a source that spells
the registry's name in capitals. -/
def secondRun : Run (List (String × List UInt8)) Unit :=
  (ingestAll Provider.memory Display.none { force := true } firstRun
    [⟨"types", "https://example.org/2"⟩, ⟨"DATA_SOURCES", "https://example.org/3"⟩]).2

theorem registry_in_step_of_secondRun :
    ∃ sources entries, secondRun.database.Records sources ∧
      secondRun.database.status = .ok entries ∧
      (entries.map Database.Status.source).Perm sources := by
  have hfirst : Reached firstRun.database :=
    .run Provider.memory Display.none {} ⟨Database.fresh, somePayloads, (), []⟩ _ (.opened rfl)
  have hsecond : Reached secondRun.database :=
    .run Provider.memory Display.none { force := true } firstRun _ hfirst
  obtain ⟨sources, hrecords, -, -, entries, hstatus, hperm, -⟩ :=
    registry_in_step_of_reached hsecond
  exact ⟨sources, entries, hrecords, hstatus, hperm⟩

end DatasetSync
