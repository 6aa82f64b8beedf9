/-
The commands of the program, and what each of them takes.
-/
import DatasetSync.CommandLine.Reader
import DatasetSync.Source.Selection

namespace DatasetSync

/-- Which sources a loading command works on. -/
structure Choice where
  selection : Selection := {}
  /-- The manifest that replaces the builtin catalog. -/
  manifest : Option String := none
deriving DecidableEq, Repr

/-- How `sync` goes about it. -/
structure SyncOptions where
  database : String
  choice : Choice := {}
  force : Bool := false
  cacheDirectory : Option String := none
  noCache : Bool := false
  failFast : Bool := false
  dashboard : Bool := false
deriving DecidableEq, Repr

/-- How `import` goes about it. -/
structure ImportOptions where
  directory : String
  database : String
  choice : Choice := {}
  force : Bool := false
  failFast : Bool := false
deriving DecidableEq, Repr

/-- What the program is to do. -/
inductive Command
  /-- Fetch and load every source whose table is missing. -/
  | sync (options : SyncOptions)
  /-- Load sources from local files. -/
  | importFrom (options : ImportOptions)
  | listSources (json : Bool) (manifest : Option String)
  | status (database : String)
  | clearCache (directory : Option String)
deriving DecidableEq, Repr

/-- A command and whether the log is to say more. -/
structure Invocation where
  verbose : Bool
  command : Command
deriving DecidableEq, Repr

namespace CommandLine

/-- The database when none is named. -/
def defaultDatabase : String := "pokemon.db"

def helpArg : Arg := { key := .help, arity := .flag, long := some "help", letter := some 'h' }

def versionArg : Arg :=
  { key := .version, arity := .flag, long := some "version", letter := some 'V' }

def verboseArg : Arg :=
  { key := .verbose, arity := .flag, long := some "verbose", letter := some 'v' }

def manifestArg : Arg := { key := .manifest, arity := .path, long := some "sources" }

def forceArg : Arg := { key := .force, arity := .flag, long := some "force", letter := some 'f' }

def failFastArg : Arg := { key := .failFast, arity := .flag, long := some "fail-fast" }

def cacheArg : Arg :=
  { key := .cacheDirectory, arity := .path, long := some "cache-dir", letter := some 'c'
    environment := some "POKEDEX_CACHE_DIR" }

def databaseArg : Arg :=
  { key := .database, arity := .path, environment := some "POKEDEX_DB"
    default := some defaultDatabase }

/-- The options that choose sources. -/
def choiceArgs : List Arg :=
  [{ key := .only, arity := .list, long := some "include", letter := some 'i' },
    { key := .without, arity := .list, long := some "exclude", letter := some 'e' }, manifestArg]

/-- What stands in front of the command. -/
def frontGrammar : Grammar := { options := [verboseArg, helpArg, versionArg] }

def syncGrammar : Grammar where
  options := choiceArgs ++ [forceArg, cacheArg,
    { key := .noCache, arity := .flag, long := some "no-cache" }, failFastArg,
    { key := .dashboard, arity := .flag, long := some "tui" }, verboseArg, helpArg]
  positionals := [databaseArg]
  exclusive := some (.noCache, .cacheDirectory)

def importGrammar : Grammar where
  options := choiceArgs ++ [forceArg, failFastArg, verboseArg, helpArg]
  positionals := [{ key := .inputDirectory, arity := .path, required := true }, databaseArg]

def listGrammar : Grammar where
  options := [{ key := .json, arity := .flag, long := some "json" }, manifestArg, verboseArg,
    helpArg]

def statusGrammar : Grammar where
  options := [verboseArg, helpArg]
  positionals := [databaseArg]

def clearGrammar : Grammar where
  options := [cacheArg, verboseArg, helpArg]

/-- The sources that were chosen. -/
def Given.choice (given : Given) : Choice :=
  ⟨⟨given.values? .only, given.values? .without⟩, given.value? .manifest⟩

/-- The database that was named. -/
def Given.database (given : Given) : String :=
  (given.value? .database).getD defaultDatabase

def syncCommand (given : Given) : Command :=
  .sync
    { database := given.database
      choice := given.choice
      force := given.has .force
      cacheDirectory := given.value? .cacheDirectory
      noCache := given.has .noCache
      failFast := given.has .failFast
      dashboard := given.has .dashboard }

def importCommand (given : Given) : Command :=
  .importFrom
    { directory := (given.value? .inputDirectory).getD ""
      database := given.database
      choice := given.choice
      force := given.has .force
      failFast := given.has .failFast }

/-- The commands: their names, what they take, and what they are. -/
def commands : List (String × Grammar × (Given → Command)) :=
  [("sync", syncGrammar, syncCommand),
    ("import", importGrammar, importCommand),
    ("list-sources", listGrammar,
      fun given => .listSources (given.has .json) (given.value? .manifest)),
    ("status", statusGrammar, fun given => .status given.database),
    ("clear-cache", clearGrammar, fun given => .clearCache (given.value? .cacheDirectory))]

/-- The arguments of `help`: it takes the name of a command, or its own. -/
def readHelp : List String → UsageFault
  | [] => .help
  | [name] => if name = "help" ∨ (commands.lookup name).isSome then .help else .unknownCommand
  | "help" :: name :: rest =>
    if rest.isEmpty && (name = "help" || (commands.lookup name).isSome) then .help
    else .unknownCommand
  | _ => .unknownCommand

/-- Reads the arguments up to the name of the command, and then those of the command. -/
def readFront (environment : List (String × String)) (r : Reader) :
    List String → Except UsageFault Invocation
  | [] => if r.given.isEmpty then .error .nothingGiven else .error .noCommand
  | text :: rest =>
    match r.onlyPositional, commands.lookup text with
    | false, some (grammar, command) => do
      let given ← Reader.run grammar environment rest
      return ⟨r.given.has .verbose || given.has .verbose, command given⟩
    | true, some _ => .error .unknownArgument
    | onlyPositional, none =>
      if text = "help" && !onlyPositional then .error (readHelp rest)
      else if onlyPositional || text.toList.head? != some '-' || text = "-" then
        .error .unknownCommand
      else do readFront environment (← r.argument frontGrammar text) rest

/-- Reads the arguments behind the program's name. -/
def read (environment : List (String × String)) (args : List String) :
    Except UsageFault Invocation :=
  readFront environment {} args

end CommandLine
end DatasetSync
