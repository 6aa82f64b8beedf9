/-
Commands that load sources, and what their success means.

A command that loads sources ends well exactly if nothing it needs is refused and every
source that it selected comes out well.  Then the database that it leaves has a table for
each of these, and it is the database that the file at the command's path holds.

The way there: what a provider does to the files leaves their directories alone, so a
path that the database was opened at leads to the same place in the end, and the database
can be kept there.
-/
import DatasetSync.Proofs.Actions
import DatasetSync.Proofs.Files.Databases
import DatasetSync.Proofs.Presence
import DatasetSync.Proofs.Results

namespace DatasetSync

open Files (SameDirectories)

variable {π ν : Type}

/-! ### What providers do to the files -/

theorem sameDirectories_store {cache : Cache} {files later : Files} {name url : String}
    {bytes : List UInt8} {result : Except Failure Unit}
    (h : cache.store files name url bytes = (result, later)) : files.SameDirectories later := by
  unfold Cache.store at h
  split at h
  · cases h
    exact .refl files
  · rename_i halfway hcopied
    have hhalfway := Files.sameDirectories_writeContent hcopied
    split at h
    · cases h
      exact hhalfway
    · rename_i stored hrecorded
      cases h
      exact hhalfway.trans (Files.sameDirectories_writeContent hrecorded)

theorem sameDirectories_fetch (network : Network ν) (cache : Option Cache) (force : Bool)
    (web : Web ν) (source : Source) :
    web.files.SameDirectories (Web.fetch network cache force web source).next.files := by
  have hdownload : web.files.SameDirectories
      (Web.downloadSource network cache web source).next.files := by
    unfold Web.downloadSource
    dsimp only
    split
    · exact .refl _
    · exact .refl _
    · split
      · rename_i hstore
        exact sameDirectories_store hstore
      · rename_i hstore
        exact sameDirectories_store hstore
  unfold Web.fetch
  split
  · split
    · exact .refl _
    · exact .refl _
    · exact hdownload
  · exact hdownload

/-- The files stay as they are when they are only read. -/
theorem next_fetch_directory (directory : String) (files : Files) (source : Source) :
    ((Provider.directory directory).fetch files source).next = files := by
  unfold Provider.directory
  dsimp only
  split <;> rfl

/-! ### Loading -/

/-- Sources are loaded into the database at a path: it is opened, every source comes out well, and
what they leave can be finished. -/
structure LoadsAll (path : String) (provider : Provider π) (options : IngestOptions) (state : π)
    (sources : List Source) (files : Files) (refusals : Refusals) (db : Database) : Prop where
  opened : files.openForWriting path = .ok db
  loaded : Standing.AllWell provider options ⟨db, state⟩ sources
  finished :
    refusals.finishing (Standing.after provider options ⟨db, state⟩ sources).database = none

section Loading

variable {path : String} {provider : Provider π} {options : IngestOptions} {state : π}
  {sources : List Source} {files : Files} {refusals : Refusals} {db : Database}

theorem finishDatabase_eq_ok_iff {a : Unit} :
    finishDatabase refusals db = .ok a ↔ refusals.finishing db = none := by
  unfold finishDatabase
  cases refusals.finishing db with
  | none => simp
  | some fault => simp [failWith]

/-- A report is given by a run over an opened database that can be finished. -/
theorem loadInto_eq_ok_iff {report : Report} {ended : Option (Run π Unit)} :
    loadInto path provider Display.none options state () sources files refusals =
        (.ok report, ended) ↔
      ∃ db run, files.openForWriting path = .ok db ∧
        ingestAll provider Display.none options ⟨db, state, (), []⟩ sources = (.ok report, run) ∧
        refusals.finishing run.database = none ∧ ended = some run := by
  unfold loadInto
  cases files.openForWriting path with
  | error failure => simp
  | ok db =>
      dsimp only
      cases hended : ingestAll provider Display.none options ⟨db, state, (), []⟩ sources with
      | mk result run =>
          cases result with
          | error failure => simp [hended]
          | ok report' =>
              simp only [Prod.mk.injEq, map_eq_ok, finishDatabase_eq_ok_iff, exists_const]
              constructor
              · rintro ⟨⟨hfinished, rfl⟩, rfl⟩
                exact ⟨db, run, rfl, hended, hfinished, rfl⟩
              · rintro ⟨_, _, hopened, hended', hfinished, rfl⟩
                cases hopened
                rw [hended] at hended'
                cases hended'
                exact ⟨⟨hfinished, rfl⟩, rfl⟩

/-- Where all sources are loaded, a report without failures is given, where the steps for the
sources lead. -/
theorem LoadsAll.loadInto (h : LoadsAll path provider options state sources files refusals db) :
    ∃ report run, loadInto path provider Display.none options state () sources files refusals =
        (.ok report, some run) ∧ report.isSuccess = true ∧
      run.standing = Standing.after provider options ⟨db, state⟩ sources := by
  have hwell : (⟨db, state, (), []⟩ : Run π Unit).standing.AllWell provider options sources :=
    h.loaded
  obtain ⟨report, hresult, hsuccess⟩ := ingestAll_unwatched_iff.mpr hwell
  have hstanding := standing_ingestAll_of_allWell hwell
  rcases hended : ingestAll provider Display.none options ⟨db, state, (), []⟩ sources with
    ⟨result, run⟩
  rw [hended] at hresult hstanding
  cases hresult
  refine ⟨report, run, loadInto_eq_ok_iff.mpr ⟨db, run, h.opened, hended, ?_, rfl⟩, hsuccess,
    hstanding⟩
  rw [show run.database = _ from congrArg Standing.database hstanding]
  exact h.finished

/-- A report without failures is only given where all sources are loaded. -/
theorem exists_loadsAll {report : Report} {ended : Option (Run π Unit)}
    (h : loadInto path provider Display.none options state () sources files refusals =
      (.ok report, ended)) (hsuccess : report.isSuccess = true) :
    ∃ db, LoadsAll path provider options state sources files refusals db := by
  obtain ⟨db, run, hopened, hended, hfinished, -⟩ := loadInto_eq_ok_iff.mp h
  have hwell := ingestAll_unwatched_iff.mp ⟨report, by rw [hended], hsuccess⟩
  have hstanding := standing_ingestAll_of_allWell hwell
  rw [hended] at hstanding
  refine ⟨db, hopened, hwell, ?_⟩
  rw [show run.database = _ from congrArg Standing.database hstanding] at hfinished
  exact hfinished

end Loading

/-! ### The two commands -/

open DatasetSync.Action

/-- Loading ends well where it gives a report, and then the database is kept. -/
theorem ends_loadLogged {path : String} {provider : Provider π} {options : IngestOptions}
    {state : π} {filesOf : π → Files} {sources : List Source} {w later : World} {report : Report} :
    Ends (loadLogged path provider options state filesOf sources) w report later ↔
      ∃ run, loadInto path provider Display.none options state () sources (filesOf state)
          w.refusals = (.ok report, some run) ∧
        later = { w with
          log := w.log ++ Event.consoleLines run.events
          files := (filesOf run.provider).keep path run.database } := by
  unfold loadLogged
  rw [ends_get_bind]
  dsimp only
  rcases hended : loadInto path provider Display.none options state () sources (filesOf state)
    w.refusals with ⟨result, run⟩
  cases run with
  | none =>
      have hfailed : result ≠ .ok report := by
        rintro rfl
        obtain ⟨_, _, -, -, -, hnone⟩ := loadInto_eq_ok_iff.mp hended
        cases hnone
      simp [hfailed]
  | some run =>
      simp only [ends_bind, ends_log, ends_setFiles, ends_ofResult, Prod.mk.injEq,
        Option.some.injEq]
      constructor
      · rintro ⟨_, _, rfl, _, _, rfl, rfl, rfl⟩
        exact ⟨run, ⟨rfl, rfl⟩, rfl⟩
      · rintro ⟨_, ⟨rfl, rfl⟩, rfl⟩
        exact ⟨(), _, rfl, (), _, rfl, rfl, rfl⟩

section Closing

variable {path : String} {provider : Provider π} {options : IngestOptions} {state : π}
  {filesOf : π → Files} {sources : List Source} {w later : World} {db : Database}

/-- Where all sources are loaded, a command that loads them ends well and keeps the database. -/
theorem LoadsAll.ends
    (h : LoadsAll path provider options state sources (filesOf state) w.refusals db) :
    ∃ later, Ends (do
        let report ← loadLogged path provider options state filesOf sources
        finish path report) w () later ∧
      later.files =
        (filesOf (Standing.after provider options ⟨db, state⟩ sources).provider).keep path
          (Standing.after provider options ⟨db, state⟩ sources).database := by
  obtain ⟨report, run, hended, hsuccess, hstanding⟩ := h.loadInto
  refine ⟨_, ends_bind.mpr ⟨report, _, ends_loadLogged.mpr ⟨run, hended, rfl⟩,
    ends_finish.mpr ⟨hsuccess, rfl⟩⟩, ?_⟩
  rw [← hstanding]
  rfl

/-- A command that loads sources only ends well where all of them are loaded. -/
theorem exists_loadsAll_of_ends (h : Ends (do
      let report ← loadLogged path provider options state filesOf sources
      finish path report) w () later) :
    ∃ db, LoadsAll path provider options state sources (filesOf state) w.refusals db := by
  obtain ⟨report, _, hloaded, hfinished⟩ := ends_bind.mp h
  obtain ⟨run, hended, -⟩ := ends_loadLogged.mp hloaded
  exact exists_loadsAll hended (ends_finish.mp hfinished).1

end Closing

/-- An exit without a failure is that of a command that ends well. -/
theorem code_eq_zero_iff {network : Network ν} {state : ν} {invocation : Invocation}
    {world : World} :
    (runInvocation network state invocation world).code = 0 ↔
      ∃ later, Ends (invocation.command.run network state) world () later := by
  unfold runInvocation Ends
  rcases ((invocation.command.run network state).run world).run with ⟨result, later⟩
  cases result with
  | error failure => simp
  | ok _ => simp

theorem files_of_ends {network : Network ν} {state : ν} (invocation : Invocation)
    {world later : World} (h : Ends (invocation.command.run network state) world () later) :
    (runInvocation network state invocation world).files = later.files := by
  unfold runInvocation
  unfold Ends at h
  rw [h]

/-! ### Importing -/

/-- What `import` succeeds with: its sources are chosen, and loaded from the directory. -/
structure ImportSucceeds (options : ImportOptions) (world : World) (sources : List Source)
    (db : Database) : Prop where
  chosen : ∃ line, options.choice.ComesTo world.files sources line
  loads : LoadsAll options.database (Provider.directory options.directory)
    ⟨options.force, !options.failFast⟩ world.files sources world.files world.refusals db

/-- Where the steps of `import` over its sources end. -/
def ImportOptions.ended (options : ImportOptions) (world : World) (sources : List Source)
    (db : Database) : Standing Files :=
  Standing.after (Provider.directory options.directory) ⟨options.force, !options.failFast⟩
    ⟨db, world.files⟩ sources

section Importing

variable {options : ImportOptions} {world later : World} {sources : List Source} {db : Database}

theorem ImportSucceeds.ends (h : ImportSucceeds options world sources db) :
    ∃ later, Ends (runImport options) world () later ∧
      later.files =
        world.files.keep options.database (options.ended world sources db).database := by
  obtain ⟨line, hchosen⟩ := h.chosen
  have hloads : LoadsAll options.database (Provider.directory options.directory)
      ⟨options.force, !options.failFast⟩ world.files sources (id world.files)
      ({ world with log := world.log ++ [line] } : World).refusals db := h.loads
  obtain ⟨later, hends, hfiles⟩ := hloads.ends
  have hread : (options.ended world sources db).provider = world.files :=
    Standing.provider_after_preserves (P := fun files => files = world.files)
      (fun files source h => (next_fetch_directory options.directory files source).trans h) rfl
  refine ⟨later, ?_, hfiles.trans (by rw [id]; exact congrArg (Files.keep · _ _) hread)⟩
  unfold runImport
  exact ends_bind.mpr ⟨sources, _, ends_chooseSources.mpr ⟨line, hchosen, rfl⟩,
    ends_files_bind.mpr hends⟩

theorem exists_importSucceeds (h : Ends (runImport options) world () later) :
    ∃ sources db, ImportSucceeds options world sources db := by
  unfold runImport at h
  obtain ⟨sources, _, hchosen, hrest⟩ := ends_bind.mp h
  obtain ⟨line, hcomes, rfl⟩ := ends_chooseSources.mp hchosen
  rw [ends_files_bind] at hrest
  obtain ⟨db, hloads⟩ := exists_loadsAll_of_ends hrest
  exact ⟨sources, db, ⟨line, hcomes⟩, hloads⟩

end Importing

/-! ### Fetching -/

/-- The cache of `sync`, and the files once it is there. -/
inductive OpensCache (options : SyncOptions) (environment : List (String × String))
    (before : Files) : Option Cache → Files → Prop
  | without (unwanted : options.noCache = true) : OpensCache options environment before none before
  | opened (wanted : options.noCache = false) {directory : String} {cache : Cache} {files : Files}
      (known : options.cacheDirectory.or (defaultCacheDirectory environment) = some directory)
      (prepared : Cache.prepare before directory = .ok (cache, files)) :
      OpensCache options environment before (some cache) files

/-- What `sync` succeeds with: its sources are chosen, there is the cache and something to send
requests with, and the sources are loaded from the web. -/
structure SyncSucceeds (network : Network ν) (state : ν) (options : SyncOptions) (world : World)
    (sources : List Source) (cache : Option Cache) (files : Files) (db : Database) : Prop where
  chosen : ∃ line, options.choice.ComesTo world.files sources line
  cached : OpensCache options world.environment world.files cache files
  client : world.refusals.client = none
  loads : LoadsAll options.database (Provider.web network cache options.force)
    ⟨options.force, !options.failFast⟩ ⟨files, state⟩ sources files world.refusals db

/-- Where the steps of `sync` over its sources end. -/
def SyncOptions.ended (network : Network ν) (state : ν) (options : SyncOptions)
    (sources : List Source) (cache : Option Cache) (files : Files) (db : Database) :
    Standing (Web ν) :=
  Standing.after (Provider.web network cache options.force) ⟨options.force, !options.failFast⟩
    ⟨db, ⟨files, state⟩⟩ sources

section Fetching

variable {network : Network ν} {state : ν} {options : SyncOptions} {w world later : World}
  {sources : List Source} {cache : Option Cache} {files : Files} {db : Database}

/-- Fetching leaves the directories alone. -/
theorem sameDirectories_ended :
    files.SameDirectories (options.ended network state sources cache files db).provider.files :=
  Standing.provider_after_preserves (P := fun web => files.SameDirectories web.files)
    (fun web source h => h.trans (sameDirectories_fetch network cache options.force web source))
    (.refl files)

theorem ends_cached {β : Type} {next : Option Cache → Action β} {b : β} :
    Ends (if options.noCache = true then do next (← pure none)
        else do next (← some <$> openCache options.cacheDirectory)) w b later ↔
      ∃ cache files, OpensCache options w.environment w.files cache files ∧
        Ends (next cache) { w with files } b later := by
  cases hwanted : options.noCache with
  | true =>
      rw [if_pos rfl, pure_bind]
      constructor
      · intro h
        exact ⟨none, w.files, .without hwanted, h⟩
      · rintro ⟨_, _, hcached, h⟩
        cases hcached with
        | without _ => exact h
        | opened hwanted' _ _ =>
            rw [hwanted] at hwanted'
            contradiction
  | false =>
      rw [if_neg Bool.false_ne_true, ends_bind]
      simp only [ends_map, ends_openCache]
      constructor
      · rintro ⟨_, _, ⟨cache, ⟨directory, files, hknown, hprepared, rfl⟩, rfl⟩, h⟩
        exact ⟨some cache, files, .opened hwanted hknown hprepared, h⟩
      · rintro ⟨_, files, hcached, h⟩
        cases hcached with
        | without hunwanted =>
            rw [hwanted] at hunwanted
            contradiction
        | opened _ hknown hprepared =>
            exact ⟨_, _, ⟨_, ⟨_, _, hknown, hprepared, rfl⟩, rfl⟩, h⟩

theorem SyncSucceeds.ends (hlogged : options.dashboard = false)
    (h : SyncSucceeds network state options world sources cache files db) :
    ∃ later, Ends (runSync network state options) world () later ∧
      later.files =
        (options.ended network state sources cache files db).provider.files.keep options.database
          (options.ended network state sources cache files db).database := by
  obtain ⟨line, hchosen⟩ := h.chosen
  have hloads : LoadsAll options.database (Provider.web network cache options.force)
      ⟨options.force, !options.failFast⟩ ⟨files, state⟩ sources (Web.files ⟨files, state⟩)
      ({ world with log := world.log ++ [line], files } : World).refusals db := h.loads
  obtain ⟨later, hends, hfiles⟩ := hloads.ends
  refine ⟨later, ?_, hfiles⟩
  unfold runSync
  rw [hlogged]
  refine ends_bind.mpr ⟨sources, _, ends_chooseSources.mpr ⟨line, hchosen, rfl⟩, ?_⟩
  refine ends_cached.mpr ⟨cache, files, h.cached, ?_⟩
  exact ends_bind.mpr ⟨(), _, ends_makeClient.mpr ⟨h.client, rfl⟩, ends_files_bind.mpr hends⟩

theorem exists_syncSucceeds (hlogged : options.dashboard = false)
    (h : Ends (runSync network state options) world () later) :
    ∃ sources cache files db, SyncSucceeds network state options world sources cache files db := by
  unfold runSync at h
  rw [hlogged] at h
  obtain ⟨sources, _, hchosen, hrest⟩ := ends_bind.mp h
  obtain ⟨line, hcomes, rfl⟩ := ends_chooseSources.mp hchosen
  obtain ⟨cache, files, hcached, hrest⟩ := ends_cached.mp hrest
  obtain ⟨_, _, hmade, hrest⟩ := ends_bind.mp hrest
  obtain ⟨hclient, rfl⟩ := ends_makeClient.mp hmade
  obtain ⟨db, hloads⟩ := exists_loadsAll_of_ends (ends_files_bind.mp hrest)
  exact ⟨sources, cache, files, db, ⟨line, hcomes⟩, hcached, hclient, hloads⟩

end Fetching

/-! ### Success -/

/-- **A command that loads sources succeeds exactly if nothing that it needs is refused and every
source comes out well, and then all tables are there**, unless a forced run drops a virtual table.
The database where the steps for the sources end has a table for each of them, and it is the one
that is in the file. -/
theorem success_iff_all_loaded (network : Network ν) (state : ν) (verbose : Bool)
    (world : World) :
    (∀ options : ImportOptions,
      ((runInvocation network state ⟨verbose, .importFrom options⟩ world).code = 0 ↔
        ∃ sources db, ImportSucceeds options world sources db) ∧
      ∀ sources db, ImportSucceeds options world sources db →
        ((options.force = true → db.NoVirtualTables) → ∀ source ∈ sources,
          (options.ended world sources db).database.hasTable source.name = true) ∧
        (Files.inMemory options.database = false →
          (runInvocation network state ⟨verbose, .importFrom options⟩ world).files.find
              options.database =
            .ok (.file (.database (options.ended world sources db).database)))) ∧
    ∀ options : SyncOptions, options.dashboard = false →
      ((runInvocation network state ⟨verbose, .sync options⟩ world).code = 0 ↔
        ∃ sources cache files db,
          SyncSucceeds network state options world sources cache files db) ∧
      ∀ sources cache files db,
        SyncSucceeds network state options world sources cache files db →
        ((options.force = true → db.NoVirtualTables) → ∀ source ∈ sources,
          (options.ended network state sources cache files db).database.hasTable source.name =
            true) ∧
        (Files.inMemory options.database = false →
          (runInvocation network state ⟨verbose, .sync options⟩ world).files.find
              options.database =
            .ok (.file (.database
              (options.ended network state sources cache files db).database))) := by
  refine ⟨fun options => ⟨?_, ?_⟩, fun options hlogged => ⟨?_, ?_⟩⟩
  · rw [code_eq_zero_iff]
    constructor
    · rintro ⟨later, hends⟩
      exact exists_importSucceeds hends
    · rintro ⟨sources, db, h⟩
      obtain ⟨later, hends, -⟩ := h.ends
      exact ⟨later, hends⟩
  · intro sources db h
    refine ⟨fun hordinary source hmem => h.loads.loaded.hasTable hordinary hmem, fun hfile => ?_⟩
    obtain ⟨later, hends, hfiles⟩ := h.ends
    rw [files_of_ends ⟨verbose, .importFrom options⟩ hends, hfiles]
    exact Files.find_keep h.loads.opened hfile (.refl _) _
  · rw [code_eq_zero_iff]
    constructor
    · rintro ⟨later, hends⟩
      exact exists_syncSucceeds hlogged hends
    · rintro ⟨sources, cache, files, db, h⟩
      obtain ⟨later, hends, -⟩ := h.ends hlogged
      exact ⟨later, hends⟩
  · intro sources cache files db h
    refine ⟨fun hordinary source hmem => h.loads.loaded.hasTable hordinary hmem, fun hfile => ?_⟩
    obtain ⟨later, hends, hfiles⟩ := h.ends hlogged
    rw [files_of_ends ⟨verbose, .sync options⟩ hends, hfiles]
    exact Files.find_keep h.loads.opened hfile sameDirectories_ended _

/-- A network that answers every request with the same body. -/
def oneBody : Network Unit where
  ask _ _ := (.ok { status := 200, length := none, pieces := [Text.Utf8.encode "id\n1\n"] }, ())

/-- A database that has the types, and a directory with a file of them. -/
def typesThere : World where
  files := { entries :=
    [(["data"], .directory), (["data", "types.csv"], .file (.bytes (Text.Utf8.encode "id\n1\n"))),
      (["old.db"], .file (.database oldTypes))] }

/-- Replaces the types by those in the directory. -/
def typesImport : ImportOptions :=
  { directory := "data", database := "old.db", force := true
    choice := { selection := { only := some ["types"] } } }

/-- Replaces the types by those on the web. -/
def typesSync : SyncOptions :=
  { database := "old.db", force := true, noCache := true
    choice := { selection := { only := some ["types"] } } }

theorem typesThere_noVirtualTables {db : Database}
    (h : typesThere.files.openForWriting "old.db" = .ok db) : db.NoVirtualTables := by
  have hopened : (typesThere.files.openForWriting "old.db").toOption.all
      (fun db => decide db.NoVirtualTables) = true := by decide +kernel
  rw [h] at hopened
  exact of_decide_eq_true hopened

/-- The types are replaced, from either place: both commands succeed, and then the table is there,
in the database that is in the file. -/
theorem success_replaces_types :
    ((runInvocation oneBody () ⟨false, .importFrom typesImport⟩ typesThere).code = 0 ∧
      ∃ sources db, ImportSucceeds typesImport typesThere sources db ∧
        (∀ source ∈ sources,
          (typesImport.ended typesThere sources db).database.hasTable source.name = true) ∧
        (runInvocation oneBody () ⟨false, .importFrom typesImport⟩ typesThere).files.find "old.db" =
          .ok (.file (.database (typesImport.ended typesThere sources db).database))) ∧
    typesSync.dashboard = false ∧
    ((runInvocation oneBody () ⟨false, .sync typesSync⟩ typesThere).code = 0 ∧
      ∃ sources cache files db,
        SyncSucceeds oneBody () typesSync typesThere sources cache files db ∧
        (∀ source ∈ sources,
          (typesSync.ended oneBody () sources cache files db).database.hasTable source.name =
            true) ∧
        (runInvocation oneBody () ⟨false, .sync typesSync⟩ typesThere).files.find "old.db" =
          .ok (.file
            (.database (typesSync.ended oneBody () sources cache files db).database))) := by
  obtain ⟨himport, hsync⟩ := success_iff_all_loaded oneBody () false typesThere
  obtain ⟨himported, himportedAll⟩ := himport typesImport
  obtain ⟨hsynced, hsyncedAll⟩ := hsync typesSync rfl
  have hcode : (runInvocation oneBody () ⟨false, .importFrom typesImport⟩ typesThere).code = 0 := by
    decide +kernel
  have hcode' : (runInvocation oneBody () ⟨false, .sync typesSync⟩ typesThere).code = 0 := by
    decide +kernel
  have hfile : Files.inMemory "old.db" = false := by decide +kernel
  obtain ⟨sources, db, hsucceeds⟩ := himported.mp hcode
  obtain ⟨hthere, hkept⟩ := himportedAll sources db hsucceeds
  obtain ⟨sources', cache, files, db', hsucceeds'⟩ := hsynced.mp hcode'
  obtain ⟨hthere', hkept'⟩ := hsyncedAll sources' cache files db' hsucceeds'
  have hordinary : db.NoVirtualTables := typesThere_noVirtualTables hsucceeds.loads.opened
  have hordinary' : db'.NoVirtualTables := by
    refine typesThere_noVirtualTables ?_
    cases hsucceeds'.cached with
    | without _ => exact hsucceeds'.loads.opened
    | opened hwanted _ _ => contradiction
  exact ⟨⟨hcode, sources, db, hsucceeds, hthere fun _ => hordinary, hkept hfile⟩, rfl,
    hcode', sources', cache, files, db', hsucceeds', hthere' fun _ => hordinary', hkept' hfile⟩

/-- A database with a virtual table, and a manifest whose sources are called like this table and like
the one that it keeps its content in. -/
def docsThere : World where
  files := { entries :=
    [(["data"], .directory),
      (["data", "docs_content.csv"], .file (.bytes (Text.Utf8.encode "id\n1\n"))),
      (["data", "docs.csv"], .file (.bytes (Text.Utf8.encode "id\n1\n2\n"))),
      (["m.json"], .file (.bytes (Text.Utf8.encode (
        "\x7b\"sources\": [\x7b\"name\": \"docs_content\", \"url\": \"https://a.example/\"\x7d, " ++
          "\x7b\"name\": \"docs\", \"url\": \"https://b.example/\"\x7d]\x7d")))),
      (["old.db"], .file (.database docs))] }

def docsImport : ImportOptions :=
  { directory := "data", database := "old.db", force := true
    choice := { manifest := some "m.json" } }

/-- The database in a file has a table of a name. -/
def hasTableIn (files : Files) (path name : String) : Bool :=
  match files.openForReading path with
  | .ok (.database db) => db.hasTable name
  | _ => false

/-- A forced import over both succeeds, but the second source replaces the virtual table, and the
table of the first goes along with it. -/
theorem content_table_gone :
    (∃ line, docsImport.choice.ComesTo docsThere.files
      [⟨"docs_content", "https://a.example/"⟩, ⟨"docs", "https://b.example/"⟩] line) ∧
    (runInvocation oneBody () ⟨false, .importFrom docsImport⟩ docsThere).code = 0 ∧
    hasTableIn (runInvocation oneBody () ⟨false, .importFrom docsImport⟩ docsThere).files "old.db"
      "docs" = true ∧
    hasTableIn (runInvocation oneBody () ⟨false, .importFrom docsImport⟩ docsThere).files "old.db"
      "docs_content" = false := by
  refine ⟨⟨_, _, ?_, rfl⟩, ?_, ?_, ?_⟩
  · decide +kernel
  · decide +kernel
  · decide +kernel
  · decide +kernel

end DatasetSync
