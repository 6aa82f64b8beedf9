/-
The order of sources does not matter.

Sources of different names do not get in each other's way.  What comes of a step
depends on the provider's answer, on whether there is a table of the source's name,
and on nothing else in the database, as long as there are no views and indexes to take
the name; and a step changes this for its own name only.  So in a list without two
spellings of one name every step comes out as it would at the beginning, wherever it
stands in the list.

What the steps leave is told by what they load: each load takes away what has its
name and adds its table and its source.  Loads of different names can change places
then, once the tables and the rows of the registry are taken in no order.
-/
import DatasetSync.Proofs.Asked
import DatasetSync.Proofs.History
import DatasetSync.Proofs.Others
import Mathlib.Data.Multiset.Filter

namespace DatasetSync

open Text (sameName DistinctNames)

variable {π δ δ' : Type}

namespace Database

/-! ### Databases without views and indexes -/

/-- The registry and the tables are in step, and there is nothing else in the database. -/
structure Tidy (db : Database) (recorded : List Source) : Prop where
  inStep : db.InStep recorded
  views : db.views = []
  indexes : db.indexes = []

theorem tidy_fresh : fresh.Tidy [] :=
  ⟨inStep_fresh, rfl, rfl⟩

section Tidy

variable {db : Database} {recorded : List Source}

theorem Tidy.loaded {provider : Provider π} {options : IngestOptions} {state : π}
    {source : Source} {payload : List UInt8} {d : Dataset} {cleared registered : Database}
    (h : db.Tidy recorded)
    (hloads : Loads provider options db state source payload d cleared registered) :
    (registered.withTable (Table.ofDataset (Schema.infer source.name d) d)).Tidy
      (recorded.filter (fun other => other.name != source.name) ++ [source]) where
  inStep := h.inStep.loaded hloads
  views := hloads.stages.views.trans h.views
  indexes := by
    have hnone := hloads.stages.indexes_sublist
      (t := Table.ofDataset (Schema.infer source.name d) d)
    rwa [h.indexes, List.sublist_nil] at hnone

theorem Tidy.separates (h : db.Tidy recorded) : db.Separates :=
  ⟨h.inStep.ordinary, h.inStep.records.comparesExactly⟩

theorem Tidy.configure {db' : Database} (h : db.Tidy recorded)
    (hconfigured : Files.configure db = .ok db') : db'.Tidy recorded := by
  have hinStep := h.inStep.configure hconfigured
  rw [h.inStep.records.configure] at hconfigured
  cases hconfigured
  exact ⟨hinStep, h.views, h.indexes⟩

/-! ### What comes of a load -/

/-- What comes of a load of a dataset into the table of a schema: the name of the registry cannot be
taken, and apart from that the columns decide. -/
def verdict (s : Schema) (d : Dataset) : Except Failure Nat :=
  if sameName s.name registryTable then
    .error ⟨[.unregistering s.name], .database (.noSuchTable registryTable)⟩
  else
    match checkColumns s.name (Statement.createTable s) []
        (columnOffsets (13 + byteSize (Statement.quoteName s.name) + 3) s.columns) with
    | .ok () => .ok d.rowCount
    | .error fault => .error ⟨[.creatingTable s.name], .database fault⟩

/-- A name other than the registry's can be cleared. -/
theorem Tidy.exists_cleared (h : db.Tidy recorded) {name : String} (hnul : '\x00' ∉ name.toList)
    (hother : sameName registryTable name = false) :
    ∃ cleared, db.Cleared name (db.hasTable name) cleared ∧ cleared.table? name = none := by
  cases hthere : db.hasTable name with
  | false => exact ⟨db, .keep, hasTable_eq_false_iff.mp hthere⟩
  | true =>
      obtain ⟨t, ht⟩ := Option.isSome_iff_exists.mp hthere
      obtain ⟨registry, hregistry, hlists⟩ := h.inStep.records
      have hdrop := dropTable_of_table? hnul ht
      have hkept := (h.inStep.ordinary.table?_dropTable_of_ne hdrop hother).trans hregistry
      have hunregister := unregister_of_columns name hkept hlists.columns
      obtain ⟨_, _, -, hrewritten⟩ := unregister_eq_ok hunregister
      refine ⟨_, .replace hdrop hunregister, ?_⟩
      rw [← hasTable_eq_false_iff, hrewritten.hasTable, hasTable_eq_false_iff,
        table?_dropTable hdrop]

/-- Then a source can be recorded, and the name is free for a new table. -/
theorem Tidy.exists_registered (h : db.Tidy recorded) (source : Source) {name : String}
    (hname : isTableName name = true) (hother : sameName name registryTable = false) :
    ∃ cleared registered, db.Cleared name (db.hasTable name) cleared ∧
      cleared.register source = .ok registered ∧ registered.IsFree name := by
  obtain ⟨cleared, hcleared, hnone⟩ := h.exists_cleared (nul_not_mem_of_isTableName hname)
    (by rw [Text.sameName_comm, hother])
  obtain ⟨registry, hregistry, hlists⟩ := hcleared.records h.inStep.records
  have hviews : cleared.views = [] := hcleared.views.trans h.views
  have hindexes : cleared.indexes = [] := by
    have hsublist := hcleared.indexes_sublist
    rwa [h.indexes, List.sublist_nil] at hsublist
  obtain ⟨registered, hregistered⟩ := register_of_columns source hregistry hlists.columns
  exact ⟨cleared, registered, hcleared, hregistered,
    isFree_of_register hregistry hname hnone (by simp [view?, hviews])
      (by simp [index?, hindexes]) hregistered⟩

/-- What comes of a load depends on nothing in the database. -/
theorem Tidy.result_load (h : db.Tidy recorded) (source : Source) {s : Schema} {d : Dataset}
    (hname : isTableName s.name = true) (hcolumns : s.columns ≠ [])
    (hrows : ∀ row ∈ d.rows, s.Describes row) :
    (db.load source s d (db.hasTable s.name)).result = verdict s d := by
  unfold verdict
  cases hsame : sameName s.name registryTable with
  | true =>
      obtain ⟨registry, hregistry, -⟩ := h.inStep.records
      have hthere : db.hasTable s.name = true := by
        rw [hasTable_congr db hsame]
        exact h.inStep.records.hasTable
      rw [hthere, load_of_registry hregistry (by simp [view?, h.views]) d hname hsame]
      rfl
  | false =>
      obtain ⟨cleared, registered, hcleared, hregistered, hfree⟩ :=
        h.exists_registered source hname hsame
      have hcreate := createTable_of_isFree hfree hcolumns
      cases hwalk : checkColumns s.name (Statement.createTable s) []
          (columnOffsets (13 + byteSize (Statement.quoteName s.name) + 3) s.columns) with
      | ok _ =>
          rw [hwalk] at hcreate
          exact (load_of_stages hrows ⟨hcleared, hregistered, hcreate⟩).1
      | error fault =>
          rw [hwalk] at hcreate
          exact load_of_refused hcleared hregistered hcreate

end Tidy

end Database

/-! ### Steps that do not get in each other's way -/

/-- What comes of loading a dataset is the same in all tidy databases. -/
theorem result_loadDataset_congr {db db' : Database} {recorded recorded' : List Source}
    (h : db.Tidy recorded) (h' : db'.Tidy recorded') {source : Source} {d : Dataset}
    (hname : isTableName source.name = true) (hd : d.IsRectangular) :
    (loadDataset db source d (db.hasTable source.name)).1 =
      (loadDataset db' source d (db'.hasTable source.name)).1 := by
  have hcolumns := Schema.columns_infer_ne_nil source.name hd
  have hrows := Schema.infer_describes source.name hd
  have hresult := h.result_load source (s := Schema.infer source.name d) hname hcolumns hrows
  have hresult' := h'.result_load source (s := Schema.infer source.name d) hname hcolumns hrows
  rw [result_loadDataset, result_loadDataset]
  exact congrArg (Except.map _) (hresult.trans hresult'.symm)

/-- What comes of a step depends on the provider's answer and on whether there is a table of the
source's name. -/
theorem result_ingestSource_congr {provider : Provider π} (options : IngestOptions)
    {db db' : Database} {recorded recorded' : List Source} (h : db.Tidy recorded)
    (h' : db'.Tidy recorded') {state state' : π} {source : Source}
    (hthere : db.hasTable source.name = db'.hasTable source.name)
    (hfetch : (provider.fetch state source).result = (provider.fetch state' source).result) :
    (ingestSource provider options db state source).result =
      (ingestSource provider options db' state' source).result := by
  unfold ingestSource
  cases hcheck : checkSource source with
  | error cause => rfl
  | ok _ =>
      dsimp only
      rw [hfetch, hthere]
      split
      · rfl
      · split
        · rfl
        · split
          · rfl
          · rename_i hparsed
            obtain ⟨-, -, -, hd⟩ := Dataset.parse_eq_ok (during_eq_ok.mp hparsed)
            have hload := result_loadDataset_congr h h' (isTableName_of_checkSource hcheck) hd
            rw [hthere] at hload
            exact hload

theorem tidy_ingestSource (provider : Provider π) (options : IngestOptions) {db : Database}
    {recorded : List Source} (h : db.Tidy recorded) (state : π) (source : Source) :
    ∃ recorded', (ingestSource provider options db state source).database.Tidy recorded' :=
  database_ingestSource_of_loads (P := fun db => ∃ recorded', db.Tidy recorded') ⟨recorded, h⟩
    fun hloads => ⟨_, h.loaded hloads⟩

namespace Standing

variable {provider : Provider π} {options : IngestOptions}

theorem tidy_after {here : Standing π} {recorded : List Source} (h : here.database.Tidy recorded)
    (sources : List Source) :
    ∃ recorded', (here.after provider options sources).database.Tidy recorded' := by
  refine after_preserves (P := fun there => ∃ recorded', there.database.Tidy recorded') ?_ here
    ⟨recorded, h⟩
  rintro there source - ⟨recorded', hthere⟩
  exact tidy_ingestSource provider options hthere there.provider source

/-- A step changes what has its own name only. -/
theorem hasTable_next_of_ne {here : Standing π} {source : Source} {name : String}
    (hordinary : here.database.NoVirtualTables) (hne : sameName name source.name = false) :
    (here.next provider options source).database.hasTable name = here.database.hasTable name := by
  refine database_ingestSource_of_loads
    (P := fun db => db.hasTable name = here.database.hasTable name) rfl ?_
  intro payload d cleared registered hloads
  have hnew : sameName source.name name = false := by rw [Text.sameName_comm, hne]
  rw [hloads.stages.hasTable, hloads.stages.clearing.hasTable_of_ne hordinary hne]
  show (_ || sameName source.name name) = _
  rw [hnew, Bool.or_false]

/-- **Each step comes out as it would at the beginning**, where no two sources have the same name:
none of the steps before it changes what it depends on. -/
theorem outcomes_of_distinct (options : IngestOptions)
    {answer : Source → Except Failure (List UInt8)} (start here : Standing π)
    {recorded recorded' : List Source} (hstart : start.database.Tidy recorded)
    (hhere : here.database.Tidy recorded') (hanswers : provider.Answers start.provider answer)
    (hanswers' : provider.Answers here.provider answer) {sources : List Source}
    (hdistinct : DistinctNames (sources.map Source.name))
    (hsame : ∀ source ∈ sources,
      here.database.hasTable source.name = start.database.hasTable source.name) :
    here.outcomes provider options sources =
        sources.map (fun source => (source, (start.step provider options source).result)) ∧
      here.supplies provider options sources =
        sources.filterMap (start.supply? provider options) := by
  induction sources generalizing here recorded' with
  | nil => exact ⟨rfl, rfl⟩
  | cons source rest ih =>
      obtain ⟨hnew, hrest⟩ := Text.distinctNames_cons.mp hdistinct
      obtain ⟨recorded'', htidy⟩ :=
        tidy_ingestSource provider options hhere here.provider source
      have hfetch : (provider.fetch here.provider source).result =
          (provider.fetch start.provider source).result := by
        rw [hanswers'.result, hanswers.result]
      have hresult : (here.step provider options source).result =
          (start.step provider options source).result :=
        result_ingestSource_congr options hhere hstart (hsame source (by simp)) hfetch
      have hsupply : here.supply? provider options source =
          start.supply? provider options source := by
        rw [supply?, supply?, hresult, hfetch]
      have hlater : ∀ other ∈ rest,
          (here.next provider options source).database.hasTable other.name =
            start.database.hasTable other.name := by
        intro other hother
        have hne : sameName other.name source.name = false := by
          rw [Text.sameName_comm]
          exact hnew other.name (List.mem_map_of_mem hother)
        rw [hasTable_next_of_ne hhere.inStep.ordinary hne, hsame other (by simp [hother])]
      obtain ⟨houtcomes, hsupplies⟩ := ih _ htidy
        (hanswers'.ingestSource options here.database source) hrest hlater
      refine ⟨?_, ?_⟩
      · rw [outcomes, hresult, List.map_cons]
        exact congrArg _ houtcomes
      · rw [supplies, hsupply, List.filterMap_cons]
        cases start.supply? provider options source with
        | none => exact hsupplies
        | some supply => exact congrArg (supply :: ·) hsupplies

end Standing

/-! ### What loads leave, in no order -/

/-- The table of a payload. -/
def Supply.table? (supply : Supply) : Option Database.Table :=
  (Dataset.parse supply.payload).toOption.map fun d =>
    Database.Table.ofDataset (Schema.infer supply.source.name d) d

theorem Supply.name_of_table? {supply : Supply} {t : Database.Table}
    (h : t ∈ supply.table?) : t.name = supply.source.name := by
  obtain ⟨d, -, rfl⟩ := Option.map_eq_some_iff.mp h
  rfl

/-- Tables and recorded sources, in no order. -/
structure Holdings where
  tables : Multiset Database.Table
  sources : Multiset Source

namespace Holdings

/-- A load takes away what has its name and adds its table and its source. -/
def take (held : Holdings) (supply : Supply) : Holdings where
  tables := held.tables.filter (fun t => sameName t.name supply.source.name = false) +
    (supply.table?.toList : Multiset Database.Table)
  sources := held.sources.filter (fun other => other.name ≠ supply.source.name) + {supply.source}

/-- What is added stays when others are taken away, so two such changes can change places. -/
theorem filter_add_comm {α : Type} (p q : α → Prop) [DecidablePred p] [DecidablePred q]
    (items : Multiset α) {added more : Multiset α} (hadded : added.filter q = added)
    (hmore : more.filter p = more) :
    (items.filter p + added).filter q + more = (items.filter q + more).filter p + added := by
  have hboth : (items.filter p).filter q = (items.filter q).filter p := by
    rw [Multiset.filter_filter, Multiset.filter_filter]
    simp only [and_comm]
  rw [Multiset.filter_add, Multiset.filter_add, hadded, hmore, hboth, Multiset.add_assoc,
    Multiset.add_comm added, ← Multiset.add_assoc]

/-- The table of a payload is not taken away by a load of another name. -/
theorem filter_table? {supply : Supply} {name : String}
    (hne : sameName supply.source.name name = false) :
    (supply.table?.toList : Multiset Database.Table).filter
      (fun t => sameName t.name name = false) = supply.table?.toList := by
  refine Multiset.filter_eq_self.mpr ?_
  intro t ht
  rw [Multiset.mem_coe, Option.mem_toList] at ht
  rw [Supply.name_of_table? ht, hne]

/-- Loads of different names can change places. -/
theorem take_comm (held : Holdings) {a b : Supply}
    (hne : sameName a.source.name b.source.name = false) :
    (held.take a).take b = (held.take b).take a := by
  have hne' : sameName b.source.name a.source.name = false := by rw [Text.sameName_comm, hne]
  have hother : ∀ {x y : Supply}, sameName x.source.name y.source.name = false →
      ({x.source} : Multiset Source).filter (fun other => other.name ≠ y.source.name) =
        {x.source} := by
    intro x y hxy
    have hxy : x.source.name ≠ y.source.name := by
      intro heq
      rw [heq, Text.sameName_self] at hxy
      contradiction
    rw [Multiset.filter_singleton, if_pos hxy]
  have htables := filter_add_comm _ _ held.tables (filter_table? hne) (filter_table? hne')
  have hsources := filter_add_comm _ _ held.sources (hother hne) (hother hne')
  exact congrArg₂ Holdings.mk htables hsources

end Holdings

namespace Database

/-- The database is tidy, and has some tables and recorded sources. -/
def Keeps (db : Database) (held : Holdings) : Prop :=
  ∃ recorded, db.Tidy recorded ∧ held = ⟨db.otherTables [], recorded⟩

theorem otherTables_singleton (db : Database) (name : String) :
    db.otherTables [name] =
      (db.otherTables []).filter fun t => sameName t.name name = false := by
  unfold otherTables
  rw [List.filter_filter]
  refine List.filter_congr fun t _ => ?_
  simp [isAmong, Bool.and_comm]

/-- A load that comes out well puts its table behind the others. -/
theorem Stages.otherTables {db cleared registered : Database} {source : Source} {s : Schema}
    {replace : Bool} {t : Table} (h : db.Stages source s replace cleared registered)
    (hdb : db.Separates) (hname : isTableName source.name = true) (hs : s.name = source.name)
    (ht : t.name = source.name) :
    (registered.withTable t).otherTables [] = db.otherTables [source.name] ++ [t] := by
  have hframe := (h.sameApartFrom hdb hname hs ht).tables
  rw [otherTables_withTable registered (isAmong_of_mem (by simp [ht]))] at hframe
  have hnew : registered.otherTables [source.name] = registered.otherTables [] := by
    rw [otherTables_singleton]
    refine List.filter_eq_self.mpr fun u hu => ?_
    have hnone := h.isFree.noTable
    rw [hs] at hnone
    simpa using table?_eq_none_iff.mp hnone u (List.mem_of_mem_filter hu)
  have hregistry : sameName t.name registryTable = false := by
    rw [ht, ← hs]
    exact h.not_registry
  rw [← hframe, hnew]
  simp [Database.otherTables, withTable, isAmong, hregistry]

/-- A step that loads a payload takes it. -/
theorem Keeps.loaded {provider : Provider π} {options : IngestOptions} {db : Database} {state : π}
    {source : Source} {payload : List UInt8} {d : Dataset} {cleared registered : Database}
    {held : Holdings} (h : db.Keeps held)
    (hloads : Loads provider options db state source payload d cleared registered) :
    (registered.withTable (Table.ofDataset (Schema.infer source.name d) d)).Keeps
      (held.take ⟨source, payload⟩) := by
  obtain ⟨recorded, htidy, rfl⟩ := h
  refine ⟨_, htidy.loaded hloads, ?_⟩
  have htables := hloads.stages.otherTables htidy.separates
    (isTableName_of_checkSource hloads.checked) rfl
    (t := Table.ofDataset (Schema.infer source.name d) d) rfl
  have htable : Supply.table? ⟨source, payload⟩ =
      some (Table.ofDataset (Schema.infer source.name d) d) := by
    simp [Supply.table?, hloads.parsed, Except.toOption]
  rw [htables, otherTables_singleton, Holdings.take, htable]
  simp [← Multiset.coe_add, bne, beq_eq_decide]

end Database

/-- Runs create neither views nor indexes. -/
theorem Reached.tidy {db : Database} (h : Reached db) : ∃ recorded, db.Tidy recorded := by
  induction h with
  | opened h =>
      cases h
      exact ⟨[], Database.tidy_fresh⟩
  | reopened _ h ih =>
      obtain ⟨recorded, hdb⟩ := ih
      exact ⟨recorded, hdb.configure h⟩
  | run provider display options run sources _ ih =>
      refine ingestAll_preserves (P := fun db => ∃ recorded, db.Tidy recorded) display ?_ run
        sources ih
      rintro db state source ⟨recorded, hdb⟩
      exact tidy_ingestSource provider options hdb state source

/-- Where steps end, the database holds what they supply. -/
theorem Standing.keeps_after (provider : Provider π) (options : IngestOptions)
    (here : Standing π) {held : Holdings} (h : here.database.Keeps held) (sources : List Source) :
    (here.after provider options sources).database.Keeps
      ((here.supplies provider options sources).foldl Holdings.take held) := by
  induction sources generalizing here held with
  | nil => exact h
  | cons source rest ih =>
      rw [after_cons, supplies, List.foldl_append]
      refine ih _ ?_
      rcases here.supply?_cases provider options source with
        ⟨hnone, hdatabase⟩ | ⟨payload, d, cleared, registered, hloads, hsome⟩
      · rw [hnone, hdatabase]
        exact h
      · rw [hsome, next, step, hloads.database]
        exact h.loaded hloads

/-! ### Runs -/

theorem Standing.source_of_supply? {provider : Provider π} {options : IngestOptions}
    {here : Standing π} {source : Source} {supply : Supply}
    (h : here.supply? provider options source = some supply) : supply.source = source := by
  unfold supply? at h
  split at h
  · cases h
    rfl
  · contradiction

/-- In a list without two spellings of one name, different sources have different names. -/
theorem sameName_of_distinct {sources : List Source}
    (h : DistinctNames (sources.map Source.name)) {a b : Source} (ha : a ∈ sources)
    (hb : b ∈ sources) (hne : a ≠ b) : sameName a.name b.name = false := by
  obtain ⟨hnodup, halike⟩ := Text.distinctNames_iff.mp h
  rw [Bool.eq_false_iff]
  intro hsame
  have hname := halike a.name (List.mem_map_of_mem ha) b.name (List.mem_map_of_mem hb) hsame
  exact hne (List.inj_on_of_nodup_map hnodup ha hb hname)

/-- Supplies for the same sources in another order leave the same. -/
theorem foldl_take_perm {provider : Provider π} {options : IngestOptions} {start : Standing π}
    {sources sources' : List Source} (hperm : sources.Perm sources')
    (hdistinct : DistinctNames (sources.map Source.name)) (held : Holdings) :
    (sources.filterMap (start.supply? provider options)).foldl Holdings.take held =
      (sources'.filterMap (start.supply? provider options)).foldl Holdings.take held := by
  refine (hperm.filterMap _).foldl_eq' ?_ held
  intro a ha b hb held
  obtain ⟨source, hsource, hsupply⟩ := List.mem_filterMap.mp ha
  obtain ⟨other, hother, hsupply'⟩ := List.mem_filterMap.mp hb
  by_cases heq : source = other
  · subst heq
    rw [hsupply, Option.some.injEq] at hsupply'
    rw [hsupply']
  · refine held.take_comm ?_
    rw [Standing.source_of_supply? hsupply, Standing.source_of_supply? hsupply']
    exact sameName_of_distinct hdistinct hsource hother heq

theorem Report.extend_perm {outcomes outcomes' : List (Source × Except Failure Outcome)}
    (h : outcomes.Perm outcomes') (report : Report) :
    (report.extend outcomes).loaded.Perm (report.extend outcomes').loaded ∧
      (report.extend outcomes).skipped.Perm (report.extend outcomes').skipped ∧
      (report.extend outcomes).failed.Perm (report.extend outcomes').failed :=
  ⟨(h.filterMap _).append_left _, (h.filterMap _).append_left _, (h.filterMap _).append_left _⟩

/-- **The order of sources does not matter.**  From a reached database, with a provider whose answers
depend on the source alone, two runs go over a list in which no name comes twice, in any spelling,
each in its own order.  If neither is cancelled, both report the same for each source, and leave the
same tables and the same rows in the registry. -/
theorem ingestAll_of_perm {provider : Provider π} {answer : Source → Except Failure (List UInt8)}
    {options : IngestOptions} {display : Display δ} {display' : Display δ'}
    {run : Run π δ} {run' : Run π δ'} {sources sources' : List Source}
    (hreached : Reached run.database) (hstart : run'.database = run.database)
    (hkeep : options.keepGoing = true) (hanswers : provider.Answers run.provider answer)
    (hanswers' : provider.Answers run'.provider answer) (hperm : sources.Perm sources')
    (hdistinct : DistinctNames (sources.map Source.name)) :
    ∃ report report',
      (ingestAll provider display options run sources).1 = .ok report ∧
      (ingestAll provider display' options run' sources').1 = .ok report' ∧
      (report.cancelled = false → report'.cancelled = false →
        (report.loaded.Perm report'.loaded ∧ report.skipped.Perm report'.skipped ∧
          report.failed.Perm report'.failed) ∧
        ((ingestAll provider display options run sources).2.database.otherTables []).Perm
          ((ingestAll provider display' options run' sources').2.database.otherTables []) ∧
        ∃ recorded recorded',
          (ingestAll provider display options run sources).2.database.Records recorded ∧
          (ingestAll provider display' options run' sources').2.database.Records recorded' ∧
          recorded.Perm recorded') := by
  obtain ⟨cancelled, hreport, hall⟩ := ingestAll_of_keepGoing provider display hkeep run sources
  obtain ⟨cancelled', hreport', hall'⟩ :=
    ingestAll_of_keepGoing provider display' hkeep run' sources'
  refine ⟨_, _, hreport, hreport', fun hwhole hwhole' => ?_⟩
  rw [database_ingestAll, database_ingestAll, hall hwhole, hall' hwhole']
  obtain ⟨recorded, htidy⟩ := hreached.tidy
  have htidy' : run'.database.Tidy recorded := by
    rw [hstart]
    exact htidy
  obtain ⟨houtcomes, hsupplies⟩ := Standing.outcomes_of_distinct options run.standing
    run.standing htidy htidy hanswers hanswers hdistinct fun _ _ => rfl
  have hdistinct' := (Text.distinctNames_perm (hperm.map Source.name)).mp hdistinct
  have hsame : run'.standing.database = run.standing.database := hstart
  obtain ⟨houtcomes', hsupplies'⟩ := Standing.outcomes_of_distinct options run.standing
    run'.standing htidy htidy' hanswers hanswers' hdistinct' fun _ _ => by rw [hsame]
  refine ⟨?_, ?_⟩
  · rw [houtcomes, houtcomes']
    exact Report.extend_perm (hperm.map _) {}
  · obtain ⟨after, hafter, hends⟩ := Standing.keeps_after provider options run.standing
      ⟨recorded, htidy, rfl⟩ sources
    obtain ⟨after', hafter', hends'⟩ := Standing.keeps_after provider options run'.standing
      ⟨recorded, htidy', rfl⟩ sources'
    -- Both runs take the same supplies from the same start, in two orders.
    rw [hsupplies, foldl_take_perm hperm hdistinct, ← hsupplies', ← hsame, hends',
      Holdings.mk.injEq, Multiset.coe_eq_coe, Multiset.coe_eq_coe] at hends
    exact ⟨hends.1.symm, after, after', hafter.inStep.records, hafter'.inStep.records,
      hends.2.symm⟩

/-- A run that replaces the table of the first run under another spelling, fails over a spelling of
the registry's name, and loads one more table. -/
def mixedRun : Run (List (String × List UInt8)) Unit :=
  ⟨firstRun.database, ("stats", "id\n5\n".toUTF8.toList) :: somePayloads, (), []⟩

def mixedSources : List Source :=
  [⟨"types", "https://example.org/2"⟩, ⟨"DATA_SOURCES", "https://example.org/3"⟩,
    ⟨"stats", "https://example.org/4"⟩]

theorem reversed_run_ends_alike :
    ∃ report report',
      (ingestAll Provider.memory Display.none { force := true } mixedRun mixedSources).1 =
        .ok report ∧
      (ingestAll Provider.memory Display.none { force := true } mixedRun mixedSources.reverse).1 =
        .ok report' ∧
      report.loaded = [("types", 2), ("stats", 1)] ∧ report.loaded.Perm report'.loaded ∧
      report.failed.map Prod.fst = ["DATA_SOURCES"] ∧ report.failed.Perm report'.failed := by
  have hreached : Reached mixedRun.database :=
    .run Provider.memory Display.none {} ⟨Database.fresh, somePayloads, (), []⟩ _ (.opened rfl)
  obtain ⟨report, report', hreport, hreport', halike⟩ :=
    @ingestAll_of_perm _ _ _ Provider.memory _ { force := true } Display.none Display.none mixedRun
      mixedRun _ _ hreached rfl rfl (Provider.answers_memory _) (Provider.answers_memory _)
      (List.reverse_perm mixedSources).symm (by decide)
  have hloaded : (ingestAll Provider.memory Display.none { force := true } mixedRun
      mixedSources).1.toOption.map (fun report =>
        (report.loaded, report.failed.map Prod.fst, report.cancelled)) =
      some ([("types", 2), ("stats", 1)], ["DATA_SOURCES"], false) := by decide +kernel
  have hwhole' : (ingestAll Provider.memory Display.none { force := true } mixedRun
      mixedSources.reverse).1.toOption.map Report.cancelled = some false := by decide +kernel
  rw [hreport] at hloaded
  rw [hreport'] at hwhole'
  simp only [Except.toOption, Option.map_some, Option.some.injEq, Prod.mk.injEq] at hloaded hwhole'
  obtain ⟨hentries, hfailed, hwhole⟩ := hloaded
  obtain ⟨⟨hsame, -, hrefused⟩, -⟩ := halike hwhole hwhole'
  exact ⟨report, report', hreport, hreport', hentries, hsame, hfailed, hrefused⟩

end DatasetSync
