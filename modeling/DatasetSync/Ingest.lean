/-
Check, then load: bringing sources into the database.

A source whose table is there already is skipped, unless the run is forced.  Any
other is fetched, parsed and loaded.  A run over several sources either goes on
after a failure and reports it at the end, or stops at the first; before each
source whoever watches can ask it to stop.

Where payloads come from and who watches are parameters: a `Provider` answers
requests out of a state of its own, and a `Display` takes in events and says
whether to stop.
-/
import DatasetSync.Database.Load

namespace DatasetSync

/-! ### The two parties of a run -/

/-- The answer to a request for a payload: the bytes or why there are none, the provider's next
state, and what happened meanwhile. -/
structure Fetch (π : Type) where
  result : Except Failure (List UInt8)
  next : π
  events : List Event := []

/-- Where payloads come from. -/
structure Provider (π : Type) where
  fetch : π → Source → Fetch π

/-- Whoever watches a run. -/
structure Display (δ : Type) where
  /-- Takes in an event. -/
  tell : δ → Event → δ
  /-- Whether to stop before the next source. -/
  asksToStop : δ → Bool × δ

/-- Nobody watches, and nobody asks to stop. -/
def Display.none : Display Unit :=
  ⟨fun _ _ => (), fun _ => (false, ())⟩

/-- Payloads kept in memory under the names of their sources. -/
def Provider.memory : Provider (List (String × List UInt8)) where
  fetch payloads source :=
    match payloads.lookup source.name with
    | some payload => ⟨.ok payload, payloads, []⟩
    | none => ⟨failWith (.noPayload source.url), payloads, []⟩

/-! ### One source -/

/-- How a run goes about it. -/
structure IngestOptions where
  /-- Drop and reload tables that already exist. -/
  force : Bool := false
  /-- Go on with the next source after a failure. -/
  keepGoing : Bool := true
deriving DecidableEq, Repr

/-- How one source came out. -/
inductive Outcome
  | skipped
  | loaded (rows columns : Nat)
deriving DecidableEq, Repr

/-- What ingesting one source leaves. -/
structure Step (π : Type) where
  result : Except Failure Outcome
  database : Database
  provider : π
  events : List Event

/-- Refuses a source whose name cannot be that of its table. -/
def checkSource (source : Source) : Except Cause Unit :=
  if source.name = registryTable then .error (.reservedName source.name)
  else checkTableName source.name

/-- The dataset in a payload. -/
def parsePayload (source : Source) (payload : List UInt8) : Except Failure Dataset :=
  during (.parsing source.name) (Dataset.parse payload)

/-- What is made known when a check begins. -/
def checkingEvents (source : Source) : List Event :=
  [.notice (.phase .checking), .notice (.info (source.name ++ " <- " ++ source.url))]

/-- Loads the dataset of a source, in place of an older table if there is one.  What is made known
ends with the progress taken back. -/
def loadDataset (db : Database) (source : Source) (d : Dataset) (replace : Bool) :
    Except Failure Outcome × Database × List Event :=
  let schema := Schema.infer source.name d
  let announced :=
    if replace then [Event.log .info .ingestion ("Replacing existing table " ++ source.name)]
    else []
  let load := db.load source schema d replace
  match load.result with
  | .error failure => (.error failure, load.database, announced ++ load.events)
  | .ok rows =>
    (.ok (.loaded rows schema.columns.length), load.database,
      announced ++ load.events ++ [.notice .clearProgress])

/-- Brings one source into the database, unless its table is there already. -/
def ingestSource {π : Type} (provider : Provider π) (options : IngestOptions) (db : Database)
    (state : π) (source : Source) : Step π :=
  match checkSource source with
  | .error cause => ⟨failWith cause, db, state, []⟩
  | .ok () =>
    let present := db.hasTable source.name
    if present && !options.force then ⟨.ok .skipped, db, state, checkingEvents source⟩
    else
      let fetched := provider.fetch state source
      let events := checkingEvents source ++
        [.notice (.phase .fetching), .request source] ++ fetched.events
      match fetched.result with
      | .error failure => ⟨.error failure, db, fetched.next, events⟩
      | .ok payload =>
        let events := events ++ [.notice (.phase .loading)]
        match parsePayload source payload with
        | .error failure => ⟨.error failure, db, fetched.next, events⟩
        | .ok d =>
          let (result, db, loading) := loadDataset db source d present
          ⟨result, db, fetched.next, events ++ loading⟩

/-! ### Many sources -/

/-- The summary of a run. -/
structure Report where
  /-- What was loaded, with the number of rows. -/
  loaded : List (String × Nat) := []
  /-- What was there already. -/
  skipped : List String := []
  /-- What failed, with the reason. -/
  failed : List (String × String) := []
  cancelled : Bool := false
deriving DecidableEq, Repr

namespace Report

def totalRows (r : Report) : Nat :=
  (r.loaded.map Prod.snd).foldl (· + ·) 0

def isSuccess (r : Report) : Bool :=
  r.failed.isEmpty

/-- The summary in one line. -/
def summary (r : Report) : String :=
  toString r.loaded.length ++ " loaded (" ++ toString r.totalRows ++ " rows), " ++
    toString r.skipped.length ++ " already present, " ++ toString r.failed.length ++ " failed" ++
    (if r.cancelled then ", cancelled" else "")

end Report

/-- The state of a run between two sources. -/
structure Run (π δ : Type) where
  database : Database
  provider : π
  display : δ
  events : List Event := []

namespace Run

variable {π δ : Type}

/-- Something happens, and whoever watches is told. -/
def emit (display : Display δ) (run : Run π δ) (events : List Event) : Run π δ :=
  { run with
    display := events.foldl display.tell run.display
    events := run.events ++ events }

/-- The state after a step. -/
def after (display : Display δ) (run : Run π δ) (step : Step π) (more : List Event) : Run π δ :=
  emit display { run with database := step.database, provider := step.provider }
    (step.events ++ more)

end Run

/-- What is made known when a source is done, before the log speaks of a failure. -/
def closingEvents (source : Source) : Except Failure Outcome → List Event
  | .ok .skipped => [.notice (.status source.name .skipped)]
  | .ok (.loaded rows columns) =>
    [.notice (.message
        (source.name ++ ": " ++ toString rows ++ " rows, " ++ toString columns ++ " columns")),
      .notice (.status source.name (.loaded rows))]
  | .error failure =>
    [.notice .clearProgress, .notice (.status source.name (.failed failure.message))]

/-- The log's line about a failure after which the run goes on. -/
def failureLine (source : Source) (failure : Failure) : Event :=
  .log .error .ingestion (source.name ++ " failed: " ++ failure.message)

/-- Ingests sources one after the other and adds them to a report. -/
def ingestFrom {π δ : Type} (provider : Provider π) (display : Display δ)
    (options : IngestOptions) :
    Run π δ → Report → List Source → Except Failure Report × Run π δ
  | run, report, [] => (.ok report, run)
  | run, report, source :: rest =>
    let (stop, watching) := display.asksToStop run.display
    let run := { run with display := watching }
    if stop then (.ok { report with cancelled := true }, run)
    else
      let step := ingestSource provider options run.database run.provider source
      let closing := closingEvents source step.result
      match step.result with
      | .ok .skipped =>
        ingestFrom provider display options (run.after display step closing)
          { report with skipped := report.skipped ++ [source.name] } rest
      | .ok (.loaded rows _) =>
        ingestFrom provider display options (run.after display step closing)
          { report with loaded := report.loaded ++ [(source.name, rows)] } rest
      | .error failure =>
        if options.keepGoing then
          ingestFrom provider display options
            (run.after display step (closing ++ [failureLine source failure]))
            { report with failed := report.failed ++ [(source.name, failure.message)] } rest
        else
          (.error (failure.within (.ingesting source.name)), run.after display step closing)

/-- Ingests every source of a list in order. -/
def ingestAll {π δ : Type} (provider : Provider π) (display : Display δ) (options : IngestOptions)
    (run : Run π δ) (sources : List Source) : Except Failure Report × Run π δ :=
  match ingestFrom provider display options run {} sources with
  | (.ok report, run) => (.ok report, run.emit display [.notice (.phase .complete)])
  | failed => failed

end DatasetSync
