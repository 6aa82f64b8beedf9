/-
What a run makes known while it goes on.

Whoever watches a run is told in which phase it is, how far along, and how each
source came out; the log gets lines of its own; and now and then the payload of a
source is asked for.  A run leaves all of this behind in order, as a list of
events, so that what was shown, what was logged and what was fetched can each be
read off the same list.
-/
import DatasetSync.Log
import DatasetSync.Number.Binary64
import DatasetSync.Source.Basic

namespace DatasetSync

/-- What is being done for a source. -/
inductive Phase
  | checking
  | fetching
  | loading
  | complete
deriving DecidableEq, Repr

/-- The title of a phase. -/
def Phase.title : Phase → String
  | checking => "Checking database"
  | fetching => "Fetching CSV"
  | loading => "Loading into SQLite"
  | complete => "Complete"

/-- How far a source has come. -/
inductive SourceStatus
  | pending
  | skipped
  | loaded (rows : Nat)
  | failed (reason : String)
deriving DecidableEq, Repr

/-- The words for a status. -/
def SourceStatus.words : SourceStatus → String
  | pending => "pending"
  | skipped => "already present"
  | loaded rows => toString rows ++ " rows"
  | failed reason => "failed: " ++ reason

/-- How much of something is done. -/
structure Progress where
  current : Nat
  /-- How much there is; zero when that is not known. -/
  total : Nat
  label : String
deriving DecidableEq, Repr

/-- The part that is done.  Of an unknown total nothing is done. -/
def Progress.ratio (p : Progress) : Number.Binary64 :=
  if p.total = 0 then Number.Binary64.zero false
  else (Number.Binary64.ofNat p.current).div (Number.Binary64.ofNat p.total)

/-- Something that whoever watches is told. -/
inductive Notice
  | phase (phase : Phase)
  | info (text : String)
  | progress (progress : Progress)
  | clearProgress
  | message (text : String)
  | status (source : String) (status : SourceStatus)
deriving DecidableEq, Repr

/-- Something that happens in a run. -/
inductive Event
  | notice (notice : Notice)
  | logged (line : LogLine)
  /-- The payload of a source is asked for. -/
  | request (source : Source)
deriving DecidableEq, Repr

namespace Event

/-- What whoever watches is told, in order. -/
def notices (events : List Event) : List Notice :=
  events.filterMap fun
    | .notice n => some n
    | _ => none

/-- The lines of the log, in order. -/
def logLines (events : List Event) : List LogLine :=
  events.filterMap fun
    | .logged line => some line
    | _ => none

/-- The sources whose payload was asked for, in order. -/
def requests (events : List Event) : List Source :=
  events.filterMap fun
    | .request source => some source
    | _ => none

/-- A line for the log. -/
def log (level : Level) (component : Component) (message : String) : Event :=
  .logged { level, component, message }

end Event

/-- The line that stands in the log for a notice when nothing but the log is watched. -/
def Notice.asLogLine? : Notice → Option LogLine
  | .info text => some { level := .info, component := .console, message := text }
  | .message text => some { level := .info, component := .console, message := text }
  | .status source (.failed reason) =>
    some { level := .warn, component := .console, message := reason, source := some source }
  | .status source outcome =>
    some { level := .info, component := .console, message := outcome.words, source := some source }
  | _ => none

/-- The log of a run that is watched through the log alone. -/
def Event.consoleLines (events : List Event) : List LogLine :=
  events.filterMap fun
    | .notice n => n.asLogLine?
    | .logged line => some line
    | .request _ => none

end DatasetSync
