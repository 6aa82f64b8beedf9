/-
Catalogs in which every source has a table of its own.

A step looks for a table of its source's name in any spelling, while an accepted catalog
is only known to repeat no name letter by letter.  So two sources of it can share a
table, or share one with the registry, and this happens exactly if a name is spelled in
two ways.

Where no two names are the same identifier, no step changes what the others depend on: a
table that was missing stays missing until its own source comes, and what a step loads
stays as it is for the rest of the run.  The other direction is seen from a provider that
has a payload for every source.  A run with it skips a source as soon as there is a table
of its name, and there is one if an earlier source has the name in another spelling; if
the run is forced, the later source puts its own table there, under its own spelling.
-/
import DatasetSync.Proofs.Loadable
import DatasetSync.Proofs.Order
import DatasetSync.Proofs.Presence
import DatasetSync.Proofs.Source.Catalog

namespace DatasetSync

open Text (sameName DistinctNames)
open Catalog (SpelledOnce)

variable {π δ : Type}

namespace Standing

variable {provider : Provider π} {options : IngestOptions} {here : Standing π}
  {sources : List Source}

/-! ### Sources without tables -/

/-- A source is only skipped if its table is there. -/
theorem hasTable_of_skipped {source : Source}
    (h : (here.step provider options source).result = .ok .skipped) :
    here.database.hasTable source.name = true := by
  cases ingestSource_comesOut provider options here.database here.provider source with
  | failed failure hresult _ =>
      rw [show (here.step provider options source).result = _ from hresult] at h
      contradiction
  | skipped _ hthere _ _ _ => exact hthere
  | loaded hloads =>
      rw [show (here.step provider options source).result = _ from hloads.result] at h
      cases h

/-- Where no source has a table and no two have the same name, none is skipped. -/
theorem not_skipped_of_distinct (hordinary : here.database.NoVirtualTables)
    (hdistinct : DistinctNames (sources.map Source.name))
    (hmissing : ∀ source ∈ sources, here.database.hasTable source.name = false)
    {source : Source} :
    (source, .ok .skipped) ∉ here.outcomes provider options sources := by
  induction sources generalizing here with
  | nil => exact List.not_mem_nil
  | cons first rest ih =>
      obtain ⟨hnew, hrest⟩ := Text.distinctNames_cons.mp hdistinct
      rw [outcomes, List.mem_cons, not_or]
      refine ⟨?_, ih (noVirtualTables_ingestSource hordinary) hrest fun other hother => ?_⟩
      · intro heq
        obtain ⟨rfl, hskipped⟩ := Prod.mk.inj heq
        have hthere := hasTable_of_skipped hskipped.symm
        rw [hmissing source List.mem_cons_self] at hthere
        contradiction
      · have hne : sameName other.name first.name = false := by
          rw [Text.sameName_comm]
          exact hnew other.name (List.mem_map_of_mem hother)
        rw [hasTable_next_of_ne hordinary hne]
        exact hmissing other (List.mem_cons_of_mem first hother)

/-- Where every source comes out well and none is skipped, none had a table, and no two have the
same name. -/
theorem distinct_of_not_skipped (hforce : options.force = false)
    (hwell : here.AllWell provider options sources)
    (hnone : ∀ source, (source, .ok .skipped) ∉ here.outcomes provider options sources) :
    DistinctNames (sources.map Source.name) ∧
      ∀ source ∈ sources, here.database.hasTable source.name = false := by
  induction sources generalizing here with
  | nil => simp [DistinctNames]
  | cons first rest ih =>
      obtain ⟨⟨outcome, hfirst⟩, hrest⟩ := allWell_cons_iff.mp hwell
      obtain ⟨hdistinct, hmissing⟩ :=
        ih hrest fun source hmem => hnone source (List.mem_cons_of_mem _ hmem)
      have hchecked : checkSource first = .ok () := (hasTable_of_result hfirst).1
      have hthere : (here.next provider options first).database.hasTable first.name = true :=
        (hasTable_of_result hfirst).2
      have hfirstMissing : here.database.hasTable first.name = false := by
        rw [Bool.eq_false_iff]
        intro hold
        have hskipped : (here.step provider options first).result = .ok .skipped :=
          (ingestSource_of_hasTable hchecked hold hforce).1
        exact hnone first (by rw [outcomes, hskipped]; exact List.mem_cons_self)
      refine ⟨Text.distinctNames_cons.mpr ⟨?_, hdistinct⟩, ?_⟩
      · intro name hname
        obtain ⟨other, hother, rfl⟩ := List.mem_map.mp hname
        rw [Bool.eq_false_iff]
        intro hsame
        have hshared := hmissing other hother
        rw [← Database.hasTable_congr _ hsame, hthere] at hshared
        contradiction
      · intro source hsource
        rcases List.mem_cons.mp hsource with rfl | hsource
        · exact hfirstMissing
        · rw [Bool.eq_false_iff]
          intro hold
          have hkept : (here.next provider options first).database.hasTable source.name = true :=
            hasTable_ingestSource (by simp [hforce]) hold
          rw [hmissing source hsource] at hkept
          contradiction

/-! ### Tables of loaded sources -/

/-- A step leaves the tables of other names as they are, but for the registry. -/
theorem table?_next_of_ne {source : Source} {name : String}
    (hordinary : here.database.NoVirtualTables) (hne : sameName name source.name = false)
    (hregistry : sameName name registryTable = false) :
    (here.next provider options source).database.table? name = here.database.table? name := by
  refine database_ingestSource_of_loads
    (P := fun db => db.table? name = here.database.table? name) rfl ?_
  intro payload d cleared registered hloads
  exact hloads.stages.table?_of_ne hordinary rfl hne hregistry

theorem noVirtualTables_after (h : here.database.NoVirtualTables) (sources : List Source) :
    (here.after provider options sources).database.NoVirtualTables :=
  after_preserves (P := fun there => there.database.NoVirtualTables)
    (fun _ _ _ hthere => noVirtualTables_ingestSource hthere) here h

theorem table?_after_of_ne {name : String} (hordinary : here.database.NoVirtualTables)
    (hne : ∀ source ∈ sources, sameName name source.name = false)
    (hregistry : sameName name registryTable = false) :
    (here.after provider options sources).database.table? name = here.database.table? name := by
  refine (after_preserves
    (P := fun there => there.database.NoVirtualTables ∧
      there.database.table? name = here.database.table? name) ?_ here ⟨hordinary, rfl⟩).2
  rintro there source hsource ⟨hthere, hsame⟩
  refine ⟨noVirtualTables_ingestSource hthere, ?_⟩
  rw [table?_next_of_ne hthere (hne source hsource) hregistry, hsame]

/-- A step that loads a source leaves a table of its name, spelled like it, which is not the
registry. -/
theorem exists_table?_of_loaded {source : Source} {rows columns : Nat}
    (h : (here.step provider options source).result = .ok (.loaded rows columns)) :
    sameName source.name registryTable = false ∧
      ∃ t, t.name = source.name ∧
        (here.next provider options source).database.table? source.name = some t := by
  cases ingestSource_comesOut provider options here.database here.provider source with
  | failed failure hresult _ =>
      rw [show (here.step provider options source).result = _ from hresult] at h
      contradiction
  | skipped _ _ _ hresult _ =>
      rw [show (here.step provider options source).result = _ from hresult] at h
      cases h
  | @loaded _ d _ _ hloads =>
      refine ⟨hloads.stages.not_registry,
        Database.Table.ofDataset (Schema.infer source.name d) d, rfl, ?_⟩
      rw [next, step, hloads.database]
      exact hloads.stages.table?_self rfl

end Standing

/-! ### A payload for every source -/

/-- Provides the same payload for every source: a table of one column without rows. -/
def Provider.obliging : Provider Unit where
  fetch _ _ := ⟨.ok "id\n".toUTF8.toList, (), []⟩

theorem Provider.obliging_parse : Dataset.parse "id\n".toUTF8.toList = .ok ⟨["id"], []⟩ := by
  decide +kernel

/-- In a database without views and indexes, a table of different columns can take the place of the
one of its name, unless this is the registry. -/
theorem exists_stages {db : Database} {recorded : List Source} (h : db.Tidy recorded)
    (source : Source) {s : Schema} (hname : isTableName s.name = true)
    (hother : sameName s.name registryTable = false) (hcreatable : Database.Creatable s)
    (hdistinct : DistinctNames (s.columns.map Column.name)) :
    ∃ cleared registered, db.Stages source s (db.hasTable s.name) cleared registered := by
  obtain ⟨cleared, registered, hcleared, hregistered, hfree⟩ :=
    h.exists_registered source hname hother
  exact ⟨cleared, registered, hcleared, hregistered,
    Database.createTable_of_distinct hfree hcreatable hdistinct⟩

/-- What the obliging provider has for a source is loaded, unless the source is skipped or has the
registry's name. -/
theorem exists_result_obliging {options : IngestOptions} {db : Database} {recorded : List Source}
    (h : db.Tidy recorded) {source : Source} (hchecked : checkSource source = .ok ())
    (hallowed : db.hasTable source.name = true → options.force = true)
    (hother : sameName source.name registryTable = false) :
    ∃ rows columns,
      (ingestSource Provider.obliging options db () source).result = .ok (.loaded rows columns) := by
  obtain ⟨_, _, _, hrectangular⟩ := Dataset.parse_eq_ok Provider.obliging_parse
  obtain ⟨cleared, registered, hstages⟩ := exists_stages h source
    (s := Schema.infer source.name ⟨["id"], []⟩) (isTableName_of_checkSource hchecked) hother
    (creatable_infer hrectangular (by decide) (by decide))
    (by rw [Schema.columnNames_infer]; decide)
  have hloads : Loads Provider.obliging options db () source _ _ cleared registered :=
    loads_of_stages hchecked hallowed rfl Provider.obliging_parse hstages
  exact ⟨_, _, hloads.result⟩

theorem allWell_obliging {here : Standing Unit} {recorded : List Source}
    (h : here.database.Tidy recorded) {sources : List Source}
    (hchecked : ∀ source ∈ sources, checkSource source = .ok ()) :
    here.AllWell Provider.obliging {} sources := by
  induction sources generalizing here recorded with
  | nil => exact Standing.allWell_nil
  | cons source rest ih =>
      obtain ⟨recorded', htidy⟩ :=
        tidy_ingestSource Provider.obliging {} h here.provider source
      have hsource := hchecked source List.mem_cons_self
      have hwell : ∃ outcome,
          (here.step Provider.obliging {} source).result = .ok outcome := by
        cases hthere : here.database.hasTable source.name with
        | true => exact ⟨.skipped, (ingestSource_of_hasTable hsource hthere rfl).1⟩
        | false =>
            have hother : sameName source.name registryTable = false := by
              rw [Bool.eq_false_iff]
              intro hsame
              rw [Database.hasTable_congr _ hsame, h.inStep.records.hasTable] at hthere
              contradiction
            have hloaded : ∃ rows columns,
                (here.step Provider.obliging {} source).result = .ok (.loaded rows columns) :=
              exists_result_obliging h hsource (by simp [hthere]) hother
            obtain ⟨rows, columns, hresult⟩ := hloaded
            exact ⟨.loaded rows columns, hresult⟩
      refine Standing.allWell_cons_iff.mpr ⟨hwell, ?_⟩
      exact ih htidy fun other hother => hchecked other (List.mem_cons_of_mem source hother)

/-! ### Catalogs -/

namespace Catalog

/-- No unforced run over the catalog from a new database reports a source as skipped. -/
def NeverSkips (catalog : Catalog) : Prop :=
  ∀ {π δ : Type} (provider : Provider π) (display : Display δ) (options : IngestOptions)
    (run : Run π δ) (report : Report), options.force = false →
    Files.configure {} = .ok run.database →
    (ingestAll provider display options run catalog).1 = .ok report → report.skipped = []

/-- What a run over the catalog has loaded for a source stays as it is for the rest of the run,
whatever database without virtual tables it begins with and whether it is forced or not. -/
def KeepsLoaded (catalog : Catalog) : Prop :=
  ∀ {π δ : Type} (provider : Provider π) (display : Display δ) (options : IngestOptions)
    (run : Run π δ) (before : List Source) (source : Source) (more : List Source)
    (rows columns : Nat), run.database.NoVirtualTables →
    before ++ source :: more <+: passed provider display options run catalog →
    ((run.standing.after provider options before).step provider options source).result =
      .ok (.loaded rows columns) →
    ∃ t, (run.standing.after provider options (before ++ [source])).database.table? source.name =
        some t ∧
      (run.standing.after provider options (before ++ source :: more)).database.table?
        source.name = some t

/-- The names that a table can be loaded under: all but the spellings of the registry's. -/
def ownNames (catalog : Catalog) : List String :=
  catalog.names.filter fun name => !sameName name registryTable

variable {catalog : Catalog}

theorem hasTable_fresh (name : String) :
    Database.fresh.hasTable name = sameName registryTable name := by
  rw [Bool.eq_iff_iff, Database.hasTable_iff]
  simp [Database.fresh, Database.emptyRegistry]

theorem neverSkips_of_distinct (h : DistinctNames (registryTable :: catalog.names)) :
    catalog.NeverSkips := by
  intro π δ provider display options run report _ hfresh hreport
  obtain ⟨hregistry, hdistinct⟩ := Text.distinctNames_cons.mp h
  have hpassed := passed_prefixOf provider display options run catalog
  have hdatabase : Database.fresh = run.standing.database := Except.ok.inj hfresh
  have hordinary : run.standing.database.NoVirtualTables := by
    rw [← hdatabase]
    decide
  have hmissing : ∀ source ∈ passed provider display options run catalog,
      run.standing.database.hasTable source.name = false := by
    intro source hsource
    rw [← hdatabase, hasTable_fresh]
    exact hregistry source.name (List.mem_map_of_mem (hpassed.subset hsource))
  rw [result_ingestAll] at hreport
  obtain ⟨cancelled, rfl⟩ := ingestFrom_eq_ok hreport
  have hnone : ∀ source, (source, .ok .skipped) ∉
      run.standing.outcomes provider options (passed provider display options run catalog) :=
    fun source => Standing.not_skipped_of_distinct hordinary
      (hdistinct.sublist (hpassed.sublist.map Source.name)) hmissing
  simp only [Report.extend, Report.ended, List.nil_append, List.filterMap_eq_nil_iff]
  intro outcome hmem
  rw [Option.eq_none_iff_forall_ne_some]
  intro name hskipped
  obtain ⟨source, rfl, -⟩ := skippedItem?_eq_some_iff.mp hskipped
  exact hnone source hmem

theorem distinct_of_neverSkips (hvalid : catalog.validate = .ok ()) (h : catalog.NeverSkips) :
    DistinctNames (registryTable :: catalog.names) := by
  have hchecked := (validate_eq_ok_iff.mp hvalid).1
  have hwell : Standing.AllWell Provider.obliging {} ⟨Database.fresh, ()⟩ catalog :=
    allWell_obliging Database.tidy_fresh hchecked
  have hrun := ingestAll_of_keepGoing Provider.obliging Display.none
    (rfl : ({} : IngestOptions).keepGoing = true) ⟨Database.fresh, (), (), []⟩ catalog
  rw [passed_unwatched _ rfl] at hrun
  obtain ⟨cancelled, hreport, -⟩ := hrun
  have hskipped := h Provider.obliging Display.none {} _ _ rfl rfl hreport
  simp only [Report.extend, Report.ended, List.nil_append, List.filterMap_eq_nil_iff] at hskipped
  obtain ⟨hdistinct, hmissing⟩ := Standing.distinct_of_not_skipped rfl hwell
    fun source hmem => by simpa [skippedItem?] using hskipped _ hmem
  refine Text.distinctNames_cons.mpr ⟨?_, hdistinct⟩
  intro name hname
  obtain ⟨source, hsource, rfl⟩ := List.mem_map.mp hname
  rw [← hasTable_fresh]
  exact hmissing source hsource

/-- The names of tables are different identifiers if those of any two sources are. -/
theorem distinctNames_ownNames :
    DistinctNames catalog.ownNames ↔ catalog.Pairwise fun a b =>
      sameName a.name registryTable = false → sameName b.name registryTable = false →
        sameName a.name b.name = false := by
  rw [DistinctNames, ownNames, List.pairwise_filter, names, List.pairwise_map]
  simp

theorem keepsLoaded_of_distinct (h : DistinctNames catalog.ownNames) : catalog.KeepsLoaded := by
  intro π δ provider display options run before source more rows columns hordinary hpassed hloaded
  obtain ⟨hregistry, t, -, ht⟩ := Standing.exists_table?_of_loaded hloaded
  have hlisted := hpassed.trans (passed_prefixOf provider display options run catalog)
  have hpairs := (distinctNames_ownNames.mp h).sublist hlisted.sublist
  have hothers := (List.pairwise_cons.mp (List.pairwise_append.mp hpairs).2.1).1
  refine ⟨t, ?_, ?_⟩
  · rw [Standing.after_append]
    exact ht
  · rw [Standing.after_append, Standing.after_cons, Standing.table?_after_of_ne ?_ ?_ hregistry]
    · exact ht
    · exact noVirtualTables_ingestSource (Standing.noVirtualTables_after hordinary before)
    · intro other hother
      cases hspelled : sameName other.name registryTable with
      | false => exact hothers other hother hregistry hspelled
      | true => rw [Text.sameName_congr_right hspelled, hregistry]

/-- Where a forced run with the obliging provider stands after some sources, from a new database. -/
def obliged (sources : List Source) : Standing Unit :=
  Standing.after Provider.obliging { force := true } ⟨Database.fresh, ()⟩ sources

/-- This run loads every source that does not have the registry's name. -/
theorem exists_loaded_obliged (before : List Source) {source : Source}
    (hchecked : checkSource source = .ok ())
    (hother : sameName source.name registryTable = false) :
    ∃ rows columns, ((obliged before).step Provider.obliging { force := true } source).result =
      .ok (.loaded rows columns) := by
  obtain ⟨_, htidy⟩ : ∃ recorded, (obliged before).database.Tidy recorded :=
    Standing.tidy_after Database.tidy_fresh before
  exact exists_result_obliging htidy hchecked (fun _ => rfl) hother

/-- So the table of the source is there then, spelled like it. -/
theorem exists_table?_obliged (before : List Source) {source : Source}
    (hchecked : checkSource source = .ok ())
    (hother : sameName source.name registryTable = false) :
    ∃ t, t.name = source.name ∧
      (obliged (before ++ [source])).database.table? source.name = some t := by
  obtain ⟨_, _, hloaded⟩ := exists_loaded_obliged before hchecked hother
  rw [obliged, Standing.after_append]
  exact (Standing.exists_table?_of_loaded hloaded).2

/-- What comes before two items of a list, between them and behind them. -/
theorem exists_append_of_pair {α : Type} {items : List α} {a b : α} (h : [a, b].Sublist items) :
    ∃ before middle rest, items = before ++ a :: middle ++ b :: rest := by
  obtain ⟨front, back, rfl, hfront, hback⟩ := List.cons_sublist_iff.mp h
  obtain ⟨before, middle, rfl⟩ := List.append_of_mem hfront
  obtain ⟨lead, rest, rfl⟩ := List.append_of_mem (List.singleton_sublist.mp hback)
  exact ⟨before, middle ++ lead, rest, by simp⟩

theorem distinct_of_keepsLoaded (hvalid : catalog.validate = .ok ()) (h : catalog.KeepsLoaded) :
    DistinctNames catalog.ownNames := by
  obtain ⟨hchecked, hnodup⟩ := validate_eq_ok_iff.mp hvalid
  rw [distinctNames_ownNames, List.pairwise_iff_forall_sublist]
  intro first second hpair hfirst hsecond
  rw [Bool.eq_false_iff]
  intro hsame
  obtain ⟨hmem, hmem'⟩ : first ∈ catalog ∧ second ∈ catalog :=
    ⟨hpair.subset (by simp), hpair.subset (by simp)⟩
  -- Both sources are loaded, one after the other.
  obtain ⟨before, middle, rest, hcatalog⟩ := exists_append_of_pair hpair
  obtain ⟨rows, columns, hloaded⟩ := exists_loaded_obliged before (hchecked first hmem) hfirst
  obtain ⟨u, huname, hu⟩ := exists_table?_obliged before (hchecked first hmem) hfirst
  obtain ⟨v, hvname, hv⟩ :=
    exists_table?_obliged (before ++ first :: middle) (hchecked second hmem') hsecond
  -- The table of the first is kept, so it is that of the second, but is spelled like the first.
  obtain ⟨t, hnow, hlater⟩ := h Provider.obliging Display.none { force := true }
    ⟨Database.fresh, (), (), []⟩ before first (middle ++ [second]) rows columns (by decide)
    (by rw [passed_unwatched _ rfl, hcatalog]; exact ⟨rest, by simp⟩) hloaded
  rw [List.append_assoc, List.cons_append, ← Database.table?_congr _ hsame] at hv
  have htu : t = u := Option.some.inj (hnow.symm.trans hu)
  have htv : t = v := Option.some.inj (hlater.symm.trans hv)
  have hname : first.name = second.name := by rw [← huname, ← hvname, ← htu, ← htv]
  have hne : first.name ≠ second.name := by
    have hnames := hpair.map Source.name
    exact (List.pairwise_cons.mp (hnodup.sublist hnames)).1 second.name (by simp)
  exact hne hname

/-- The names of tables in an accepted catalog are different identifiers exactly if none is spelled
in two ways. -/
theorem distinctNames_ownNames_iff (h : catalog.validate = .ok ()) :
    DistinctNames catalog.ownNames ↔ SpelledOnce catalog.ownNames := by
  rw [Text.distinctNames_iff]
  exact and_iff_right ((validate_eq_ok_iff.mp h).2.filter _)

/-- **In an accepted catalog every source has a table of its own exactly if no name is spelled in
two ways.**  No source is skipped in a new database exactly if this holds with the registry's name
among the others, and no run replaces what it has loaded exactly if it holds without the spellings
of the registry's name, which nothing can be loaded under. -/
theorem own_tables_iff_spelledOnce (h : catalog.validate = .ok ()) :
    (DistinctNames catalog.names ↔ SpelledOnce catalog.names) ∧
      (catalog.NeverSkips ↔ SpelledOnce (registryTable :: catalog.names)) ∧
      (catalog.KeepsLoaded ↔ SpelledOnce catalog.ownNames) := by
  refine ⟨distinctNames_iff h, ?_, ?_⟩
  · rw [← distinctNames_registry_iff h]
    exact ⟨distinct_of_neverSkips h, neverSkips_of_distinct⟩
  · rw [← distinctNames_ownNames_iff h]
    exact ⟨distinct_of_keepsLoaded h, keepsLoaded_of_distinct⟩

/-- The builtin catalog is one of these. -/
theorem builtin_own_tables :
    builtin.validate = .ok () ∧ DistinctNames builtin.names ∧ builtin.NeverSkips ∧
      builtin.KeepsLoaded := by
  have hvalid : builtin.validate = .ok () := by decide +kernel
  have honce : SpelledOnce (registryTable :: builtin.names) := by decide +kernel
  have honce' : SpelledOnce builtin.names := by decide +kernel
  have honce'' : SpelledOnce builtin.ownNames := by decide +kernel
  obtain ⟨hdistinct, hskips, hkeeps⟩ := own_tables_iff_spelledOnce hvalid
  exact ⟨hvalid, hdistinct.mpr honce', hskips.mpr honce, hkeeps.mpr honce''⟩

/-- A catalog with two spellings of one name. -/
def spelledTwice : Catalog :=
  [⟨"types", "https://a.example/types.csv"⟩, ⟨"Types", "https://b.example/types.csv"⟩]

/-- A run over it from a new database. -/
def sharedTableRun : Run (List (String × List UInt8)) Unit :=
  ⟨Database.fresh, [("types", "id\n1\n".toUTF8.toList), ("Types", "id\n2\n3\n".toUTF8.toList)],
    (), []⟩

/-- Two spellings of one name are accepted.  The second source is skipped for the table of the
first, and in a forced run it replaces this table. -/
theorem two_spellings_share_table :
    spelledTwice.validate = .ok () ∧ ¬DistinctNames spelledTwice.names ∧
      (ingestAll Provider.memory Display.none {} sharedTableRun spelledTwice).1 =
        .ok ⟨[("types", 1)], ["Types"], [], false⟩ ∧
      (ingestAll Provider.memory Display.none { force := true } sharedTableRun spelledTwice).1 =
        .ok ⟨[("types", 1), ("Types", 2)], [], [], false⟩ ∧
      ((ingestAll Provider.memory Display.none { force := true } sharedTableRun
        spelledTwice).2.database.table? "types").map (·.rows.size) = some 2 := by
  decide +kernel

end Catalog
end DatasetSync
