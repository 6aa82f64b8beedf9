/-
The log.

A log line has a level, the part of the program it comes from and a message;
a line about the outcome of a source also carries the source's name.
-/
import DatasetSync.Text.Quoted

namespace DatasetSync

/-- How much a log line matters, the most pressing first. -/
inductive Level
  | error
  | warn
  | info
  | debug
  | trace
deriving DecidableEq, Repr

/-- The word for a level. -/
def Level.word : Level → String
  | error => "ERROR"
  | warn => "WARN"
  | info => "INFO"
  | debug => "DEBUG"
  | trace => "TRACE"

/-- How far down a level is; a setting lets through what is no further down than it. -/
def Level.depth : Level → Nat
  | error => 1
  | warn => 2
  | info => 3
  | debug => 4
  | trace => 5

/-- The part of the program that a log line comes from. -/
inductive Component
  | command
  | selection
  | ingestion
  | database
  | cache
  | client
  | console
deriving DecidableEq, Repr

/-- The path under which settings address a part of the program. -/
def Component.path : Component → String
  | command => "pokedex_to_sqlite"
  | selection => "pokedex_to_sqlite::filter"
  | ingestion => "pokedex_to_sqlite::ingest"
  | database => "pokedex_to_sqlite::writer::sqlite"
  | cache => "pokedex_to_sqlite::download::cache"
  | client => "pokedex_to_sqlite::download::client"
  | console => "pokedex_to_sqlite::ui::console"

/-- A line of the log. -/
structure LogLine where
  level : Level
  component : Component
  message : String
  source : Option String := none
deriving DecidableEq, Repr

/-- A line as it is shown. -/
def LogLine.text (l : LogLine) : String :=
  l.level.word ++ " " ++ l.message ++
    match l.source with
    | some source => " source=" ++ Text.quoted source
    | none => ""

end DatasetSync
