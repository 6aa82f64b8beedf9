/-
What ingesting sources does to the database.

A step either stops before the load, and then the database is as it was, or it
hands the parsed payload over to the load of its dataset.  A failure therefore
changes nothing, whichever of the steps it comes from.  What a step can do at all is
said once, in three cases, and every later proof about steps takes these apart.
-/
import DatasetSync.Ingest
import DatasetSync.Proofs.Database.Load

namespace DatasetSync

variable {π : Type}

/-! ### Loading a dataset -/

theorem database_loadDataset (db : Database) (source : Source) (d : Dataset) (replace : Bool) :
    (loadDataset db source d replace).2.1 =
      (db.load source (Schema.infer source.name d) d replace).database := by
  cases hresult : (db.load source (Schema.infer source.name d) d replace).result with
  | error failure => simp [loadDataset, hresult]
  | ok rows => simp [loadDataset, hresult]

theorem result_loadDataset (db : Database) (source : Source) (d : Dataset) (replace : Bool) :
    (loadDataset db source d replace).1 =
      (db.load source (Schema.infer source.name d) d replace).result.map
        fun rows => .loaded rows (Schema.infer source.name d).columns.length := by
  cases hresult : (db.load source (Schema.infer source.name d) d replace).result with
  | error failure => simp [loadDataset, hresult, Except.map]
  | ok rows => simp [loadDataset, hresult, Except.map]

theorem loadDataset_eq_error {db : Database} {source : Source} {d : Dataset} {replace : Bool}
    {failure : Failure} (h : (loadDataset db source d replace).1 = .error failure) :
    (db.load source (Schema.infer source.name d) d replace).result = .error failure := by
  rw [result_loadDataset] at h
  exact map_eq_error.mp h

theorem loadDataset_eq_ok {db : Database} {source : Source} {d : Dataset} {replace : Bool}
    {outcome : Outcome} (h : (loadDataset db source d replace).1 = .ok outcome) :
    ∃ rows, (db.load source (Schema.infer source.name d) d replace).result = .ok rows ∧
      outcome = .loaded rows d.columns.length := by
  rw [result_loadDataset, Schema.length_columns_infer] at h
  obtain ⟨rows, hresult, houtcome⟩ := map_eq_ok.mp h
  exact ⟨rows, hresult, houtcome.symm⟩

/-! ### One source -/

/-- Whether a source is refused depends on its name alone. -/
theorem checkSource_congr {a b : Source} (h : a.name = b.name) : checkSource a = checkSource b := by
  unfold checkSource
  rw [h]

/-- Without force, a source whose table is there is skipped. -/
theorem ingestSource_of_hasTable {provider : Provider π} {options : IngestOptions} {db : Database}
    {state : π} {source : Source} (hchecked : checkSource source = .ok ())
    (hthere : db.hasTable source.name = true) (hforce : options.force = false) :
    (ingestSource provider options db state source).result = .ok .skipped ∧
      (ingestSource provider options db state source).database = db := by
  simp [ingestSource, hchecked, hthere, hforce]

/-- A step came as far as the load of a dataset, and ends as the load does. -/
structure ReachesLoad (provider : Provider π) (options : IngestOptions) (db : Database) (state : π)
    (source : Source) (d : Dataset) : Prop where
  /-- The name can be that of a table, and is not the registry's. -/
  checked : checkSource source = .ok ()
  /-- A table that is there is only replaced by force. -/
  allowed : db.hasTable source.name = true → options.force = true
  payload : ∃ payload, (provider.fetch state source).result = .ok payload ∧
    Dataset.parse payload = .ok d
  result : (ingestSource provider options db state source).result =
    (loadDataset db source d (db.hasTable source.name)).1
  database : (ingestSource provider options db state source).database =
    (db.load source (Schema.infer source.name d) d (db.hasTable source.name)).database

/-- Where nothing stands in the way before the load, a step comes to it. -/
theorem reachesLoad_of_parsed {provider : Provider π} {options : IngestOptions} {db : Database}
    {state : π} {source : Source} {payload : List UInt8} {d : Dataset}
    (hchecked : checkSource source = .ok ())
    (hallowed : db.hasTable source.name = true → options.force = true)
    (hfetched : (provider.fetch state source).result = .ok payload)
    (hparsed : Dataset.parse payload = .ok d) :
    ReachesLoad provider options db state source d := by
  have hgo : ¬(db.hasTable source.name && !options.force) = true := by simpa using hallowed
  refine ⟨hchecked, hallowed, ⟨payload, hfetched, hparsed⟩, ?_, ?_⟩
  · simp [ingestSource, hchecked, hgo, hfetched, parsePayload, during, hparsed, mapError_ok]
  · simp [ingestSource, hchecked, hgo, hfetched, parsePayload, during, hparsed, mapError_ok,
      database_loadDataset]

/-- A step comes to the load of a dataset, skips a source whose table is there, or fails before the
load; without a load the database stays as it is. -/
theorem ingestSource_cases (provider : Provider π) (options : IngestOptions) (db : Database)
    (state : π) (source : Source) :
    (∃ d, ReachesLoad provider options db state source d) ∨
      ((ingestSource provider options db state source).result = .ok .skipped ∧
        (ingestSource provider options db state source).database = db ∧
        checkSource source = .ok () ∧ db.hasTable source.name = true ∧ options.force = false) ∨
      (∃ failure, (ingestSource provider options db state source).result = .error failure ∧
        (ingestSource provider options db state source).database = db) := by
  cases hcheck : checkSource source with
  | error cause =>
      refine Or.inr (Or.inr ⟨⟨[], cause⟩, ?_⟩)
      simp [ingestSource, hcheck, failWith]
  | ok _ =>
      by_cases hskip : (db.hasTable source.name && !options.force) = true
      · refine Or.inr (Or.inl ?_)
        have hthere : db.hasTable source.name = true ∧ options.force = false := by
          simpa using hskip
        simp [ingestSource, hcheck, hthere]
      · have hallowed : db.hasTable source.name = true → options.force = true := by
          simpa using hskip
        cases hfetch : (provider.fetch state source).result with
        | error failure =>
            refine Or.inr (Or.inr ⟨failure, ?_⟩)
            simp [ingestSource, hcheck, hskip, hfetch]
        | ok payload =>
            cases hparse : Dataset.parse payload with
            | error failure =>
                refine Or.inr (Or.inr ⟨failure.within (.parsing source.name), ?_⟩)
                simp [ingestSource, hcheck, hskip, hfetch, parsePayload, during, hparse,
                  mapError_error]
            | ok d => exact Or.inl ⟨d, reachesLoad_of_parsed hcheck hallowed hfetch hparse⟩

/-- A dataset that comes to the load is rectangular. -/
theorem ReachesLoad.isRectangular {provider : Provider π} {options : IngestOptions}
    {db : Database} {state : π} {source : Source} {d : Dataset}
    (h : ReachesLoad provider options db state source d) : d.IsRectangular := by
  obtain ⟨payload, -, hparse⟩ := h.payload
  obtain ⟨-, -, -, hd⟩ := Dataset.parse_eq_ok hparse
  exact hd

/-- A step whose outcome is a load came to the load. -/
theorem reachesLoad_of_loaded {provider : Provider π} {options : IngestOptions}
    {db : Database} {state : π} {source : Source} {rows columns : Nat}
    (h : (ingestSource provider options db state source).result = .ok (.loaded rows columns)) :
    ∃ d, ReachesLoad provider options db state source d ∧ columns = d.columns.length ∧
      (db.load source (Schema.infer source.name d) d (db.hasTable source.name)).result =
        .ok rows := by
  rcases ingestSource_cases provider options db state source with
    ⟨d, hload⟩ | ⟨hskipped, -⟩ | ⟨failure, hfailed, -⟩
  · rw [hload.result] at h
    obtain ⟨n, hresult, houtcome⟩ := loadDataset_eq_ok h
    cases houtcome
    exact ⟨d, hload, rfl, hresult⟩
  · rw [hskipped] at h
    cases h
  · rw [hfailed] at h
    contradiction

/-- A step that loaded the dataset of a payload: all statements of the load came out well, one
after the other, and the table of the dataset stands behind the others. -/
structure Loads (provider : Provider π) (options : IngestOptions) (db : Database) (state : π)
    (source : Source) (payload : List UInt8) (d : Dataset) (cleared registered : Database) :
    Prop where
  checked : checkSource source = .ok ()
  allowed : db.hasTable source.name = true → options.force = true
  fetched : (provider.fetch state source).result = .ok payload
  parsed : Dataset.parse payload = .ok d
  rectangular : d.IsRectangular
  stages : db.Stages source (Schema.infer source.name d) (db.hasTable source.name) cleared
    registered
  result : (ingestSource provider options db state source).result =
    .ok (.loaded d.rowCount d.columns.length)
  database : (ingestSource provider options db state source).database =
    registered.withTable (Database.Table.ofDataset (Schema.infer source.name d) d)

/-- A step that comes to a load whose statements come out well has loaded its dataset. -/
theorem loads_of_stages {provider : Provider π} {options : IngestOptions} {db : Database}
    {state : π} {source : Source} {payload : List UInt8} {d : Dataset}
    {cleared registered : Database} (hchecked : checkSource source = .ok ())
    (hallowed : db.hasTable source.name = true → options.force = true)
    (hfetched : (provider.fetch state source).result = .ok payload)
    (hparsed : Dataset.parse payload = .ok d)
    (hstages : db.Stages source (Schema.infer source.name d) (db.hasTable source.name) cleared
      registered) :
    Loads provider options db state source payload d cleared registered := by
  have hload : ReachesLoad provider options db state source d :=
    reachesLoad_of_parsed hchecked hallowed hfetched hparsed
  obtain ⟨hresult, hdatabase⟩ :=
    Database.load_of_stages (Schema.infer_describes source.name hload.isRectangular) hstages
  refine ⟨hchecked, hallowed, hfetched, hparsed, hload.isRectangular, hstages, ?_, ?_⟩
  · rw [hload.result]
    simp [loadDataset, hresult, Schema.length_columns_infer]
  · rw [hload.database, hdatabase]

/-- How a step comes out, with what it does to the database. -/
inductive ComesOut (provider : Provider π) (options : IngestOptions) (db : Database) (state : π)
    (source : Source) : Prop
  | failed (failure : Failure)
      (result : (ingestSource provider options db state source).result = .error failure)
      (database : (ingestSource provider options db state source).database = db)
  | skipped (checked : checkSource source = .ok ()) (there : db.hasTable source.name = true)
      (unforced : options.force = false)
      (result : (ingestSource provider options db state source).result = .ok .skipped)
      (database : (ingestSource provider options db state source).database = db)
  | loaded {payload : List UInt8} {d : Dataset} {cleared registered : Database}
      (loads : Loads provider options db state source payload d cleared registered)

theorem ingestSource_comesOut (provider : Provider π) (options : IngestOptions) (db : Database)
    (state : π) (source : Source) : ComesOut provider options db state source := by
  rcases ingestSource_cases provider options db state source with
    ⟨d, hload⟩ | ⟨hresult, hdatabase, hchecked, hthere, hunforced⟩ | ⟨failure, hresult, hdatabase⟩
  · obtain ⟨payload, hfetched, hparsed⟩ := hload.payload
    cases hresult :
        (db.load source (Schema.infer source.name d) d (db.hasTable source.name)).result with
    | error failure =>
        refine .failed failure ?_ ?_
        · rw [hload.result]
          simp [loadDataset, hresult]
        · rw [hload.database, Database.database_load_of_error hresult]
    | ok rows =>
        obtain ⟨-, cleared, registered, hstages, -⟩ :=
          Database.load_eq_ok (Schema.infer_describes source.name hload.isRectangular) hresult
        exact .loaded (loads_of_stages hload.checked hload.allowed hfetched hparsed hstages)
  · exact .skipped hchecked hthere hunforced hresult hdatabase
  · exact .failed failure hresult hdatabase

/-- What holds of the database of its beginning and of what a load would leave there, holds where a
step ends. -/
theorem database_ingestSource_of_loads {P : Database → Prop} {provider : Provider π}
    {options : IngestOptions} {db : Database} {state : π} {source : Source} (hdb : P db)
    (hload : ∀ {payload : List UInt8} {d : Dataset} {cleared registered : Database},
      Loads provider options db state source payload d cleared registered →
        P (registered.withTable (Database.Table.ofDataset (Schema.infer source.name d) d))) :
    P (ingestSource provider options db state source).database := by
  cases ingestSource_comesOut provider options db state source with
  | failed _ _ hdatabase =>
      rw [hdatabase]
      exact hdb
  | skipped _ _ _ _ hdatabase =>
      rw [hdatabase]
      exact hdb
  | loaded hloads =>
      rw [hloads.database]
      exact hload hloads

/-! ### Failures -/

/-- **A failure changes nothing.**  Whatever a step fails from, and whatever a load of arbitrary
arguments fails from, a row that is too short included, the database is the one of its beginning. -/
theorem failure_keeps_database (db : Database) :
    (∀ (π : Type) (provider : Provider π) (options : IngestOptions) (state : π) (source : Source)
        (failure : Failure),
      (ingestSource provider options db state source).result = .error failure →
        (ingestSource provider options db state source).database = db) ∧
    (∀ (source : Source) (s : Schema) (d : Dataset) (replace : Bool) (failure : Failure),
      (db.load source s d replace).result = .error failure →
        (db.load source s d replace).database = db) := by
  refine ⟨?_, fun source s d replace failure => Database.database_load_of_error⟩
  intro π provider options state source failure h
  rcases ingestSource_cases provider options db state source with
    ⟨d, hload⟩ | ⟨-, hsame, -⟩ | ⟨-, -, hsame⟩
  · rw [hload.result] at h
    rw [hload.database]
    exact Database.database_load_of_error (loadDataset_eq_error h)
  · exact hsame
  · exact hsame

/-- A database in which one dataset was loaded. -/
def oldTypes : Database :=
  { tables :=
      [{ Database.emptyRegistry with rows := #[[.text "types", .text "https://example.org/old"]] },
        { name := "types"
          columns := [{ name := "id", declared := "INTEGER", notNull := true }]
          definition := "CREATE TABLE \"types\" (\n    \"id\" INTEGER NOT NULL\n)"
          rows := #[[.integer 7]] }] }

/-- A database with a virtual table, which keeps its content in another table. -/
def docs : Database :=
  { tables :=
      [Database.emptyRegistry,
        { name := "docs", columns := [{ name := "body", declared := "" }]
          definition := "CREATE VIRTUAL TABLE docs USING fts3(body)", shadows := ["docs_content"] },
        { name := "docs_content", columns := [{ name := "c0body", declared := "" }]
          definition := "CREATE TABLE 'docs_content'('c0body')" }] }

/-- A forced reload that is refused when the new table is created, and a load that is refused when
its second row is inserted: the old table is still there, and its old address. -/
theorem failed_reload_keeps_database :
    (ingestSource Provider.memory { force := true } oldTypes [("types", "a,A\n1,2\n".toUTF8.toList)]
        ⟨"types", "https://example.org/new"⟩).database = oldTypes ∧
      (oldTypes.load ⟨"types", "https://example.org/new"⟩ ⟨"types", [⟨"id", .integer, false⟩]⟩
        ⟨["id"], [[some "1"], [none]]⟩ true).database = oldTypes :=
  ⟨(failure_keeps_database oldTypes).1 _ _ _ _ _
      ⟨[.creatingTable "types"], .database (.duplicateColumn "A")⟩ (by decide +kernel),
    (failure_keeps_database oldTypes).2 _ _ _ _
      ⟨[.insertingRows "types"], .database (.notNull "types" "id")⟩ (by decide +kernel)⟩

end DatasetSync
