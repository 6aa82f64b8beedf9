/-
The program: what each command does.

A command works on the files below a directory, with the environment and a
network.  The machine may refuse it something to send requests with, or to finish a
database.  It may print, it leaves lines in the log, and it ends well or with a
failure.  All of it is one function from the files before to the files after, so
that what a command promises can be stated.
-/
import DatasetSync.CommandLine.Command
import DatasetSync.Files.Databases
import DatasetSync.LogFilter
import DatasetSync.Network.Download
import DatasetSync.Screen.Dashboard
import DatasetSync.Source.Manifest

namespace DatasetSync

/-- What was shown on the screen of the terminal. -/
structure Showing where
  /-- The dashboard as it was drawn last, if it was drawn at all. -/
  last : Option Screen.Dashboard
  /-- At the end the dashboard waited for a key. -/
  waited : Bool
deriving DecidableEq, Repr

/-- What a machine refuses to a command apart from its files. -/
structure Refusals where
  /-- Why nothing can be made to send requests with. -/
  client : Option Network.Fault := none
  /-- Why a database cannot be finished. -/
  finishing : Database → Option Database.Fault := fun _ => none

/-- What a command works on and leaves behind. -/
structure World where
  files : Files
  /-- What the machine refuses. -/
  refusals : Refusals := {}
  /-- The environment variables. -/
  environment : List (String × String) := []
  /-- What the terminal has reported, if there is one. -/
  terminal : Option (List Screen.Input) := none
  log : List LogLine := []
  printed : String := ""
  showing : Option Showing := none

/-- A part of a command: it changes the world and gives a result or fails. -/
abbrev Action := ExceptT Failure (StateM World)

namespace Action

/-- Puts lines into the log. -/
def log (lines : List LogLine) : Action Unit :=
  modify fun w => { w with log := w.log ++ lines }

/-- Prints a line. -/
def print (line : String) : Action Unit :=
  modify fun w => { w with printed := w.printed ++ line ++ "\n" }

/-- Fails where something failed. -/
def ofResult {α : Type} (result : Except Failure α) : Action α :=
  match result with
  | .ok a => pure a
  | .error failure => throw failure

/-- Fails with a cause. -/
def fail {α : Type} (cause : Cause) : Action α :=
  throw ⟨[], cause⟩

/-- The files as they are. -/
def files : Action Files := do
  return (← get).files

/-- Changes the files. -/
def setFiles (files : Files) : Action Unit :=
  modify fun w => { w with files }

end Action

/-! ### Sources -/

/-- The catalog in a manifest's file. -/
def Manifest.load (files : Files) (path : String) : Except Failure Catalog :=
  match files.readText path with
  | .error fault => .error ⟨[.readingManifest path], .files fault⟩
  | .ok text =>
    match Manifest.parse text with
    | .error fault => .error ⟨[.parsingManifest path], .json fault⟩
    | .ok catalog =>
      match catalog.validate with
      | .error cause => failWith cause
      | .ok () => .ok catalog

/-- The catalog in effect: the manifest's if one was given, otherwise the builtin one. -/
def Catalog.load (files : Files) (manifest : Option String) : Except Failure Catalog :=
  match manifest with
  | some path => Manifest.load files path
  | none => .ok Catalog.builtin

/-- The sources that a choice comes to. -/
def chooseSources (choice : Choice) : Action (List Source) := do
  let catalog ← Action.ofResult (Catalog.load (← Action.files) choice.manifest)
  let (sources, line) ← Action.ofResult (choice.selection.resolve catalog)
  Action.log [line]
  return sources

/-! ### The cache -/

/-- The directory that belongs to the person's caches, for this program. -/
def defaultCacheDirectory (environment : List (String × String)) : Option String :=
  match environment.lookup "XDG_CACHE_HOME", environment.lookup "HOME" with
  | some caches, home =>
    if Path.isAbsolute caches then some (Path.join caches "pokedex-to-sqlite")
    else home.map fun home => Path.join home ".cache/pokedex-to-sqlite"
  | none, some home => some (Path.join home ".cache/pokedex-to-sqlite")
  | none, none => none

/-- The cache in a directory, or in the default one. -/
def openCache (directory : Option String) : Action Cache := do
  let directory ←
    match directory with
    | some directory => pure directory
    | none =>
      match defaultCacheDirectory (← get).environment with
      | some directory => pure directory
      | none => Action.fail .noCacheDirectory
  let (cache, files) ← Action.ofResult (Cache.prepare (← Action.files) directory)
  Action.setFiles files
  return cache

/-! ### Loading -/

/-- Finishes a database; nothing of it changes. -/
def finishDatabase (refusals : Refusals) (db : Database) : Except Failure Unit :=
  match refusals.finishing db with
  | some fault => failWith (.database fault)
  | none => .ok ()

/-- Loads sources into the database at a path.  The result comes with the final states of provider
and display. -/
def loadInto {π δ : Type} (path : String) (provider : Provider π) (display : Display δ)
    (options : IngestOptions) (state : π) (watching : δ) (sources : List Source) (files : Files)
    (refusals : Refusals) : Except Failure Report × Option (Run π δ) :=
  match files.openForWriting path with
  | .error failure => (.error failure, none)
  | .ok db =>
    let (result, run) := ingestAll provider display options ⟨db, state, watching, []⟩ sources
    match result with
    | .error failure => (.error failure, some run)
    | .ok report => ((finishDatabase refusals run.database).map fun _ => report, some run)

/-- The line of the log that ends a loading command. -/
def finalLine (path : String) (report : Report) : LogLine :=
  { level := .info, component := .command, message := Text.quoted path ++ ": " ++ report.summary }

/-- Ends a loading command: with a failure if some source failed. -/
def finish (path : String) (report : Report) : Action Unit := do
  Action.log [finalLine path report]
  if !report.isSuccess then Action.fail (.sourcesFailed (report.failed.map Prod.fst))

/-- Loads sources into the database at a path, watched through the log, and keeps the database.  The
files are in the provider's state. -/
def loadLogged {π : Type} (path : String) (provider : Provider π) (options : IngestOptions)
    (state : π) (filesOf : π → Files) (sources : List Source) : Action Report := do
  let (result, run) :=
    loadInto path provider Display.none options state () sources (filesOf state) (← get).refusals
  if let some run := run then
    Action.log (Event.consoleLines run.events)
    Action.setFiles ((filesOf run.provider).keep path run.database)
  Action.ofResult result

/-- Fetches sources and loads them, watched on the dashboard.  After a failure that ends the run
it does not wait for a key. -/
def syncShown {ν : Type} (provider : Provider (Web ν)) (state : ν) (options : SyncOptions)
    (sources : List Source) : Action Report := do
  let files ← Action.files
  let some pending := (← get).terminal | Action.fail (.files .noDevice)
  let start := Screen.Dashboard.start (sources.map Source.name) pending
  let (result, run) := loadInto options.database provider Screen.Dashboard.display
    ⟨options.force, !options.failFast⟩ ⟨files, state⟩ start sources files (← get).refusals
  let ended := run.map fun run =>
    match result with
    | .ok report => run.display.finish report.summary
    | .error _ => run.display
  modify fun w => { w with showing := some ⟨ended, result.isOk⟩ }
  if let some run := run then
    Action.setFiles (run.provider.files.keep options.database run.database)
  Action.ofResult result

/-- Makes something to send requests with. -/
def makeClient : Action Unit := do
  if let some fault := (← get).refusals.client then throw ⟨[.creatingClient], .network fault⟩

/-- Fetches sources and loads them. -/
def runSync {ν : Type} (network : Network ν) (state : ν) (options : SyncOptions) :
    Action Unit := do
  let sources ← chooseSources options.choice
  let cache ← if options.noCache then pure none else some <$> openCache options.cacheDirectory
  makeClient
  let provider := Provider.web network cache options.force
  let report ←
    if options.dashboard then syncShown provider state options sources
    else
      loadLogged options.database provider ⟨options.force, !options.failFast⟩
        ⟨← Action.files, state⟩ Web.files sources
  finish options.database report

/-- Loads sources from the files of a directory. -/
def runImport (options : ImportOptions) : Action Unit := do
  let sources ← chooseSources options.choice
  let report ← loadLogged options.database (Provider.directory options.directory)
    ⟨options.force, !options.failFast⟩ (← Action.files) id sources
  finish options.database report

/-! ### Looking -/

/-- Lists the sources of a catalog. -/
def runListSources (json : Bool) (manifest : Option String) : Action Unit := do
  let catalog ← Action.ofResult (Catalog.load (← Action.files) manifest)
  if json then Action.print (Json.pretty 0 (Manifest.catalogValue catalog))
  else
    Action.print "Configured sources:\n"
    for source in catalog do
      Action.print ("  " ++ Text.padRight 22 source.name ++ " " ++ source.url)

/-- A line about a recorded source. -/
def statusLine (entry : Database.Status) : String :=
  let rows := match entry.rows with
    | some n => toString n ++ " rows"
    | none => "missing"
  "  " ++ Text.padRight 22 entry.source.name ++ " " ++ Text.padLeft 12 rows ++ "  " ++
    entry.source.url

/-- Shows the recorded sources of a database. -/
def runStatus (path : String) : Action Unit := do
  let files ← Action.files
  if !files.present path then Action.fail (.noDatabase path)
  let content ← Action.ofResult (files.openForReading path)
  let entries ← Action.ofResult (Files.contentStatus content)
  if entries.isEmpty then Action.print ("No sources registered in " ++ Text.quoted path)
  for entry in entries do
    Action.print (statusLine entry)

/-- Removes the cached files. -/
def runClearCache (directory : Option String) : Action Unit := do
  let cache ← openCache directory
  let (result, files) := cache.clear (← Action.files)
  Action.setFiles files
  let removed ← Action.ofResult result
  Action.print
    ("Removed " ++ toString removed ++ " cached file(s) from " ++ Text.quoted cache.directory)

/-! ### The whole -/

/-- Does what a command says. -/
def Command.run {ν : Type} (network : Network ν) (state : ν) : Command → Action Unit
  | .sync options => runSync network state options
  | .importFrom options => runImport options
  | .listSources json manifest => runListSources json manifest
  | .status database => runStatus database
  | .clearCache directory => runClearCache directory

/-- Whether a command takes over the screen.  Then nothing is logged. -/
def Command.usesScreen : Command → Bool
  | .sync options => options.dashboard
  | _ => false

/-- The paths of the files and directories that a command may read or write. -/
def Command.paths (environment : List (String × String)) : Command → List String
  | .sync options =>
    let cache := options.cacheDirectory.or (defaultCacheDirectory environment)
    [options.database] ++ options.choice.manifest.toList ++
      if options.noCache then [] else cache.toList
  | .importFrom options =>
    [options.directory, options.database] ++ options.choice.manifest.toList
  | .listSources _ manifest => manifest.toList
  | .status database => [database]
  | .clearCache directory => (directory.or (defaultCacheDirectory environment)).toList

/-- The version of the program. -/
def versionText : String := "pokedex-to-sqlite 0.1.0\n"

/-- What a run of the program leaves. -/
structure Exit where
  code : Nat
  printed : String := ""
  log : List LogLine := []
  failure : Option Failure := none
  usage : Option CommandLine.UsageFault := none
  showing : Option Showing := none
  files : Files

/-- Runs a command of which the arguments were understood. -/
def runInvocation {ν : Type} (network : Network ν) (state : ν) (invocation : Invocation)
    (world : World) : Exit :=
  let filter := LogFilter.inEffect (world.environment.lookup "RUST_LOG") invocation.verbose
  let (result, world) := ((invocation.command.run network state).run world).run
  let failure := match result with
    | .ok () => none
    | .error failure => some failure
  { code := if failure.isSome then 1 else 0
    printed := world.printed
    log := if invocation.command.usesScreen then [] else world.log.filter filter.shows
    failure
    showing := world.showing
    files := world.files }

/-- Runs the program. -/
def runProgram {ν : Type} (network : Network ν) (state : ν) (args : List String) (world : World) :
    Exit :=
  match CommandLine.read world.environment args with
  | .error fault =>
    { code := fault.exitCode
      printed := if fault = .version then versionText else ""
      usage := some fault
      files := world.files }
  | .ok invocation => runInvocation network state invocation world

end DatasetSync
