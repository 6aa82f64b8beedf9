/-
The three records of a run.

A run gives a report, it tells whoever watches how each source came out, and a
dashboard keeps the latest of what it was told for each source.  All three are made
while the run goes on, and none from another.  They agree since every turn of the run
adds to each of them: the report gets one entry, whoever watches is told one status,
and the dashboard changes one line.

A provider is watched too while it fetches, and could tell statuses of its own.  These
are set apart here; no provider of the program tells any.
-/
import DatasetSync.Network.Download
import DatasetSync.Proofs.Resumption
import DatasetSync.Screen.Dashboard

namespace DatasetSync

variable {π δ : Type}

/-! ### Statuses -/

/-- The statuses that whoever watches is told, in order. -/
def Event.statuses (events : List Event) : List (String × SourceStatus) :=
  events.filterMap fun
    | .notice (.status name status) => some (name, status)
    | _ => none

theorem Event.statuses_append (first second : List Event) :
    Event.statuses (first ++ second) = Event.statuses first ++ Event.statuses second :=
  List.filterMap_append

/-- The status of a source, by what came of its step. -/
def SourceStatus.ofResult : Except Failure Outcome → SourceStatus
  | .ok .skipped => .skipped
  | .ok (.loaded rows _) => .loaded rows
  | .error failure => .failed failure.message

/-- What is told of a source. -/
def statusEntry (outcome : Source × Except Failure Outcome) : String × SourceStatus :=
  (outcome.1.name, .ofResult outcome.2)

/-- When a source is done, its status is told, once. -/
theorem statuses_turnEvents (source : Source) (result : Except Failure Outcome) :
    Event.statuses (turnEvents source result) = [statusEntry (source, result)] := by
  rcases result with failure | _ | ⟨rows, columns⟩ <;> rfl

/-! ### What a step tells -/

namespace Database

/-- Inserting rows tells of progress only. -/
theorem statuses_insertBatches (s : Schema) (total done : Nat) (t : Table)
    (batches : List (List (List (Option String)))) :
    Event.statuses (insertBatches s total done t batches).2.2 = [] := by
  induction batches generalizing done t with
  | nil => rfl
  | cons batch rest ih =>
      rw [insertBatches]
      split
      · rfl
      · exact ih _ _

theorem statuses_work (tx : Transaction) (source : Source) (s : Schema) (d : Dataset)
    (replace : Bool) : Event.statuses (tx.work source s d replace).2.2 = [] := by
  unfold Transaction.work Transaction.fill
  split
  · rfl
  · split
    · rfl
    · exact statuses_insertBatches _ _ _ _ _

theorem statuses_load (db : Database) (source : Source) (s : Schema) (d : Dataset)
    (replace : Bool) : Event.statuses (db.load source s d replace).events = [] :=
  statuses_work (Transaction.start db) source s d replace

end Database

theorem statuses_loadDataset (db : Database) (source : Source) (d : Dataset) (replace : Bool) :
    Event.statuses (loadDataset db source d replace).2.2 = [] := by
  have hload := db.statuses_load source (Schema.infer source.name d) d replace
  have hannounced : Event.statuses (if replace then
      [Event.log .info .ingestion ("Replacing existing table " ++ source.name)] else []) = [] := by
    split <;> rfl
  unfold loadDataset
  dsimp only
  split
  · rw [Event.statuses_append, hannounced, hload]
    rfl
  · rw [Event.statuses_append, Event.statuses_append, hannounced, hload]
    rfl

/-- A step tells the statuses that its provider tells while it fetches, and no others. -/
theorem statuses_ingestSource (provider : Provider π) (options : IngestOptions) (db : Database)
    (state : π) (source : Source) :
    Event.statuses (ingestSource provider options db state source).events = [] ∨
      Event.statuses (ingestSource provider options db state source).events =
        Event.statuses (provider.fetch state source).events := by
  unfold ingestSource
  split
  · exact Or.inl rfl
  · dsimp only
    split
    · exact Or.inl rfl
    · refine Or.inr ?_
      have hchecking : Event.statuses (checkingEvents source ++
          [.notice (.phase .fetching), .request source]) = [] := rfl
      have hloading : Event.statuses [.notice (.phase .loading)] = [] := rfl
      split
      · rw [Event.statuses_append, hchecking, List.nil_append]
      · split
        · rw [Event.statuses_append, Event.statuses_append, hchecking, hloading, List.nil_append,
            List.append_nil]
        · rw [Event.statuses_append, Event.statuses_append, Event.statuses_append, hchecking,
            hloading, statuses_loadDataset, List.nil_append, List.append_nil, List.append_nil]

/-! ### What a run tells -/

/-- What is told in the turn of a source: statuses that the provider tells of its own accord, and
then how the source came out. -/
structure Told where
  aside : List (String × SourceStatus)
  entry : String × SourceStatus

namespace Standing

variable (provider : Provider π) (options : IngestOptions)

/-- What a run that goes on after failures makes known about some sources. -/
def story : Standing π → List Source → List Event
  | _, [] => []
  | here, source :: rest =>
    (here.step provider options source).events ++
      turnEvents source (here.step provider options source).result ++
      story (here.next provider options source) rest

/-- The statuses among it. -/
def told : Standing π → List Source → List Told
  | _, [] => []
  | here, source :: rest =>
    ⟨Event.statuses (here.step provider options source).events,
        statusEntry (source, (here.step provider options source).result)⟩ ::
      told (here.next provider options source) rest

variable {provider options}

theorem statuses_story (here : Standing π) (sources : List Source) :
    Event.statuses (here.story provider options sources) =
      (here.told provider options sources).flatMap fun turn => turn.aside ++ [turn.entry] := by
  induction sources generalizing here with
  | nil => rfl
  | cons source rest ih =>
      rw [story, told, List.flatMap_cons, Event.statuses_append, Event.statuses_append,
        statuses_turnEvents, ih]

/-- Of each source the status is told that its step came out with. -/
theorem entries_told (here : Standing π) (sources : List Source) :
    (here.told provider options sources).map Told.entry =
      (here.outcomes provider options sources).map statusEntry := by
  induction sources generalizing here with
  | nil => rfl
  | cons source rest ih =>
      rw [told, outcomes, List.map_cons, List.map_cons, ih]

theorem names_told (provider : Provider π) (options : IngestOptions) (here : Standing π)
    (sources : List Source) :
    ((here.told provider options sources).map Told.entry).map Prod.fst =
      sources.map Source.name := by
  have hnames : ((here.outcomes provider options sources).map statusEntry).map Prod.fst =
      ((here.outcomes provider options sources).map Prod.fst).map Source.name := by
    rw [List.map_map, List.map_map]
    rfl
  rw [entries_told, hnames, map_fst_outcomes]

/-- What else is told comes from the provider. -/
theorem aside_of_mem_told {here : Standing π} {sources : List Source} {turn : Told}
    (h : turn ∈ here.told provider options sources) :
    turn.aside = [] ∨ ∃ state, ∃ source ∈ sources,
      turn.aside = Event.statuses (provider.fetch state source).events := by
  induction sources generalizing here with
  | nil => contradiction
  | cons source rest ih =>
      rcases List.mem_cons.mp h with rfl | hmem
      · exact (statuses_ingestSource provider options here.database here.provider source).imp_right
          fun htold => ⟨here.provider, source, by simp, htold⟩
      · exact (ih hmem).imp_right fun ⟨state, other, hother, htold⟩ =>
          ⟨state, other, by simp [hother], htold⟩

end Standing

/-! ### Views of whoever watches -/

/-- A part of what whoever watches knows, which each event changes in its own way, and which the
question whether to stop does not change. -/
structure Display.Follows {α : Type} (display : Display δ) (view : δ → α)
    (take : α → Event → α) : Prop where
  tell : ∀ d event, view (display.tell d event) = take (view d) event
  asksToStop : ∀ d, view (display.asksToStop d).2 = view d

theorem Display.Follows.view_emit {α : Type} {display : Display δ} {view : δ → α}
    {take : α → Event → α} (h : display.Follows view take) (run : Run π δ) (events : List Event) :
    view (run.emit display events).display = events.foldl take (view run.display) :=
  (List.foldl_hom view fun d event => (h.tell d event).symm).symm

section Runs

variable (provider : Provider π) (display : Display δ) {options : IngestOptions}

/-- A run leaves its story behind the events before it, and whoever watches has followed it. -/
theorem ingestFrom_story (hkeep : options.keepGoing = true) (run : Run π δ) (report : Report)
    (sources : List Source) :
    (ingestFrom provider display options run report sources).2.events =
        run.events ++
          run.standing.story provider options (passed provider display options run sources) ∧
      ∀ {α : Type} {view : δ → α} {take : α → Event → α}, display.Follows view take →
        view (ingestFrom provider display options run report sources).2.display =
          (run.standing.story provider options
            (passed provider display options run sources)).foldl take (view run.display) := by
  induction sources generalizing run report with
  | nil => exact ⟨(List.append_nil _).symm, fun _ => rfl⟩
  | cons source rest ih =>
      cases hstop : (display.asksToStop run.display).1 with
      | true =>
          obtain ⟨hends, hpassed⟩ := ingestFrom_of_stop provider options source hstop report
            rest
          rw [hends, hpassed]
          exact ⟨(List.append_nil _).symm, fun h => h.asksToStop run.display⟩
      | false =>
          obtain ⟨hends, hpassed⟩ := ingestFrom_of_goesOn provider options source hstop
            (Or.inl hkeep) report rest
          obtain ⟨hevents, hview⟩ := ih (run.goneOn provider display options source)
            (report.extend [(source, (run.standing.step provider options source).result)])
          rw [hends, hpassed, Standing.story]
          refine ⟨?_, fun {α view take} h => ?_⟩
          · rw [hevents]
            exact List.append_assoc _ _ _
          · have hgone : view (run.goneOn provider display options source).display =
                ((run.standing.step provider options source).events ++ turnEvents source
                  (run.standing.step provider options source).result).foldl take
                    (view run.display) := by
              rw [← h.asksToStop run.display]
              exact h.view_emit _ _
            rw [hview h, hgone]
            exact List.foldl_append.symm

/-- Behind its story a run says that it is complete. -/
theorem ingestAll_story (hkeep : options.keepGoing = true) (run : Run π δ)
    (sources : List Source) :
    ∃ story, (ingestAll provider display options run sources).2.events = run.events ++ story ∧
      Event.statuses story = (run.standing.told provider options
        (passed provider display options run sources)).flatMap
          (fun turn => turn.aside ++ [turn.entry]) ∧
      ∀ {α : Type} {view : δ → α} {take : α → Event → α}, display.Follows view take →
        view (ingestAll provider display options run sources).2.display =
          story.foldl take (view run.display) := by
  obtain ⟨hevents, hview⟩ := ingestFrom_story provider display hkeep run {} sources
  obtain ⟨cancelled, hends, -⟩ :=
    ingestFrom_of_keepGoing provider display hkeep run {} sources
  have hall := congrArg Prod.snd (ingestAll_of_ok hends)
  refine ⟨run.standing.story provider options (passed provider display options run sources) ++
    [.notice (.phase .complete)], ?_, ?_, fun h => ?_⟩
  · rw [hall, Run.emit, hevents]
    exact List.append_assoc _ _ _
  · rw [Event.statuses_append, Standing.statuses_story]
    exact List.append_nil _
  · rw [hall, h.view_emit, hview h, List.foldl_append]

end Runs

/-! ### Reports -/

/-- The entry of a report for a source that was told to be loaded. -/
def loadedStatus? : String × SourceStatus → Option (String × Nat)
  | (name, .loaded rows) => some (name, rows)
  | _ => none

/-- The entry of a report for a source that was told to be present. -/
def skippedStatus? : String × SourceStatus → Option String
  | (name, .skipped) => some name
  | _ => none

/-- The entry of a report for a source that was told to have failed. -/
def failedStatus? : String × SourceStatus → Option (String × String)
  | (name, .failed reason) => some (name, reason)
  | _ => none

/-- A report says the same as some statuses, each of its lists in their order, and every one of them
is in one of the lists. -/
structure Report.Agrees (report : Report) (entries : List (String × SourceStatus)) : Prop where
  settled : ∀ entry ∈ entries, entry.2 ≠ .pending
  loaded : report.loaded = entries.filterMap loadedStatus?
  skipped : report.skipped = entries.filterMap skippedStatus?
  failed : report.failed = entries.filterMap failedStatus?

theorem loadedStatus?_comp_statusEntry : loadedStatus? ∘ statusEntry = loadedItem? := by
  funext ⟨source, result⟩
  rcases result with failure | _ | ⟨rows, columns⟩ <;> rfl

theorem skippedStatus?_comp_statusEntry : skippedStatus? ∘ statusEntry = skippedItem? := by
  funext ⟨source, result⟩
  rcases result with failure | _ | ⟨rows, columns⟩ <;> rfl

theorem failedStatus?_comp_statusEntry : failedStatus? ∘ statusEntry = failedItem? := by
  funext ⟨source, result⟩
  rcases result with failure | _ | ⟨rows, columns⟩ <;> rfl

/-- The report of some outcomes says the same as their statuses. -/
theorem agrees_statusEntry (outcomes : List (Source × Except Failure Outcome))
    (cancelled : Bool) :
    ((({} : Report).extend outcomes).ended cancelled).Agrees (outcomes.map statusEntry) where
  settled := by
    intro entry hentry
    obtain ⟨⟨source, result⟩, -, rfl⟩ := List.mem_map.mp hentry
    rcases result with failure | _ | ⟨rows, columns⟩ <;> simp [statusEntry, SourceStatus.ofResult]
  loaded := by
    rw [List.filterMap_map, loadedStatus?_comp_statusEntry]
    exact List.nil_append _
  skipped := by
    rw [List.filterMap_map, skippedStatus?_comp_statusEntry]
    exact List.nil_append _
  failed := by
    rw [List.filterMap_map, failedStatus?_comp_statusEntry]
    exact List.nil_append _

/-! ### The dashboard -/

namespace Screen

namespace Board

/-- A name that does not come before is set at its place. -/
theorem setStatus_append {name : String} {before : List (String × SourceStatus)}
    (hnew : name ∉ before.map Prod.fst) (old status : SourceStatus)
    (rest : List (String × SourceStatus)) :
    setStatus name status (before ++ (name, old) :: rest) = before ++ (name, status) :: rest := by
  induction before with
  | nil => simp [setStatus]
  | cons entry others ih =>
      rw [List.map_cons, List.mem_cons, not_or] at hnew
      rw [List.cons_append, setStatus, if_neg (Ne.symm hnew.1), ih hnew.2, List.cons_append]

/-- Sources that are waiting. -/
def waiting (names : List String) : List (String × SourceStatus) :=
  names.map fun name => (name, .pending)

/-- Statuses of the first of the sources that are waiting, one after the other, replace these. -/
theorem foldl_setStatus (before : List (String × SourceStatus))
    {entries : List (String × SourceStatus)}
    (hnodup : (before.map Prod.fst ++ entries.map Prod.fst).Nodup) (rest : List String) :
    entries.foldl (fun sources entry => setStatus entry.1 entry.2 sources)
        (before ++ waiting (entries.map Prod.fst ++ rest)) =
      before ++ entries ++ waiting rest := by
  induction entries generalizing before with
  | nil => simp
  | cons entry others ih =>
      have hnew : entry.1 ∉ before.map Prod.fst := by
        intro hmem
        exact (List.nodup_append.mp hnodup).2.2 _ hmem _ (by simp) rfl
      rw [List.foldl_cons, List.map_cons, List.cons_append, waiting, List.map_cons,
        setStatus_append hnew, ← waiting, List.append_cons, ih _ ?_]
      · simp
      · simpa using hnodup

end Board

namespace Dashboard

/-- What an event changes about the sources of a board. -/
def noteStatus (sources : List (String × SourceStatus)) : Event → List (String × SourceStatus)
  | .notice (.status name status) => Board.setStatus name status sources
  | _ => sources

/-- The sources of a dashboard follow the statuses that it is told. -/
theorem follows : display.Follows (fun d => d.board.sources) noteStatus where
  tell d event := by
    rcases event with (_ | _ | _ | _ | _ | _) | _ | _ <;> rfl
  asksToStop d := by
    show d.poll.board.sources = d.board.sources
    unfold poll
    split
    · rfl
    · dsimp only
      split <;> rfl

theorem foldl_noteStatus (events : List Event) (sources : List (String × SourceStatus)) :
    events.foldl noteStatus sources =
      (Event.statuses events).foldl
        (fun sources entry => Board.setStatus entry.1 entry.2 sources) sources := by
  induction events generalizing sources with
  | nil => rfl
  | cons event rest ih =>
      rw [List.foldl_cons, ih]
      rcases event with (_ | _ | _ | _ | _ | _) | _ | _ <;> rfl

end Dashboard

end Screen

/-! ### Providers -/

/-- The provider tells no statuses of its own. -/
def Provider.TellsNoStatus (provider : Provider π) : Prop :=
  ∀ state source, Event.statuses (provider.fetch state source).events = []

namespace Provider

theorem tellsNoStatus_memory : memory.TellsNoStatus := by
  intro payloads source
  unfold memory
  dsimp only
  split <;> rfl

theorem tellsNoStatus_directory (path : String) : (directory path).TellsNoStatus := by
  intro files source
  unfold directory
  dsimp only
  split <;> rfl

theorem statuses_gather (label : String) (total : Nat) (body : Array UInt8)
    (pieces : List (List UInt8)) :
    Event.statuses (Network.gather label total body pieces).2 = [] := by
  induction pieces generalizing body with
  | nil => rfl
  | cons piece rest ih =>
      rw [Network.gather]
      split
      · exact ih body
      · exact ih _

theorem statuses_download {ν : Type} (network : Network ν) (state : ν) (url label : String) :
    Event.statuses (network.download state url label).2.2 = [] := by
  unfold Network.download
  dsimp only
  split
  · rfl
  · split
    · rfl
    · split
      · rfl
      · split
        · exact statuses_gather _ _ _ _
        · rw [Event.statuses_append, statuses_gather]
          rfl

theorem tellsNoStatus_web {ν : Type} (network : Network ν) (cache : Option Cache) (force : Bool) :
    (web network cache force).TellsNoStatus := by
  intro state source
  have hread : ∀ kept : Cache,
      Event.statuses (kept.read state.files source.name source.url).2 = [] := by
    intro kept
    unfold Cache.read
    split
    · rfl
    · split
      · rfl
      · rfl
      · split
        · split <;> rfl
        · rfl
  have hdownloaded :
      Event.statuses (Web.downloadSource network cache state source).events = [] := by
    have htold := statuses_download network state.network source.url source.name
    unfold Web.downloadSource
    dsimp only
    split
    · exact htold
    · exact htold
    · split <;> exact htold
  show Event.statuses (Web.fetch network cache force state source).events = []
  unfold Web.fetch
  split
  · rename_i kept
    have hkept := hread kept
    split <;> rename_i hcopy <;> rw [hcopy] at hkept
    · exact hkept
    · rw [Event.statuses_append, hkept]
      rfl
    · rw [Event.statuses_append, hkept, hdownloaded]
      rfl
  · exact hdownloaded

end Provider

/-! ### The three records -/

/-- Without asides, what is told is how the sources came out. -/
theorem flatMap_told {told : List Told} (h : ∀ turn ∈ told, turn.aside = []) :
    (told.flatMap fun turn => turn.aside ++ [turn.entry]) = told.map Told.entry := by
  induction told with
  | nil => rfl
  | cons turn rest ih =>
      rw [List.flatMap_cons, List.map_cons, h turn (by simp),
        ih fun other hother => h other (by simp [hother])]
      rfl

section Records

variable {provider : Provider π} {options : IngestOptions}

/-- The report of a run says what the run told. -/
theorem report_agrees (hkeep : options.keepGoing = true) (display : Display δ) (run : Run π δ)
    (sources : List Source) :
    ∃ report, (ingestAll provider display options run sources).1 = .ok report ∧
      (report.cancelled = false ↔ passed provider display options run sources = sources) ∧
      report.Agrees ((run.standing.told provider options
        (passed provider display options run sources)).map Told.entry) := by
  obtain ⟨cancelled, hreport, -⟩ := ingestAll_of_keepGoing provider display hkeep run sources
  refine ⟨_, hreport, cancelled_eq_false_iff hkeep hreport, ?_⟩
  rw [Standing.entries_told]
  exact agrees_statusEntry _ cancelled

/-- The dashboard of a run shows what the run told, if the provider tells nothing itself. -/
theorem dashboard_sources (hkeep : options.keepGoing = true) (hsilent : provider.TellsNoStatus)
    {run : Run π Screen.Dashboard} {sources rest : List Source}
    (hnodup : (sources.map Source.name).Nodup)
    (hstart : run.display.board.sources = Screen.Board.waiting (sources.map Source.name))
    (hlist : passed provider Screen.Dashboard.display options run sources ++ rest = sources) :
    (ingestAll provider Screen.Dashboard.display options run sources).2.display.board.sources =
      (run.standing.told provider options
        (passed provider Screen.Dashboard.display options run sources)).map Told.entry ++
          Screen.Board.waiting (rest.map Source.name) := by
  obtain ⟨story, -, hstatuses, hview⟩ := ingestAll_story provider Screen.Dashboard.display hkeep run
    sources
  have hnone : ∀ turn ∈ run.standing.told provider options
      (passed provider Screen.Dashboard.display options run sources), turn.aside = [] := by
    intro turn hturn
    rcases Standing.aside_of_mem_told hturn with hnone | ⟨state, source, -, htold⟩
    · exact hnone
    · rw [htold, hsilent]
  rw [flatMap_told hnone] at hstatuses
  have hnames := Standing.names_told provider options run.standing
    (passed provider Screen.Dashboard.display options run sources)
  rw [← hlist, List.map_append, ← hnames] at hnodup hstart
  rw [hview Screen.Dashboard.follows, Screen.Dashboard.foldl_noteStatus, hstatuses, hstart]
  exact Screen.Board.foldl_setStatus [] (List.nodup_append.mp hnodup).1 _

/-- **Report, statuses and dashboard agree.**  A run that goes on after failures comes to the first of
its sources, to all of them exactly if it is not cancelled.  It tells one status for each, in their
order, apart from what the provider tells of its own accord, and the lists of its report have what
was told.  With a provider that tells nothing itself, a dashboard over sources of different names
then shows what was told in the places of these sources, and the others waiting. -/
theorem records_agree (hkeep : options.keepGoing = true) :
    (∀ {δ : Type} (display : Display δ) (run : Run π δ) (sources : List Source),
      ∃ (came : List Source) (told : List Told) (story : List Event) (report : Report),
        (ingestAll provider display options run sources).1 = .ok report ∧
        (ingestAll provider display options run sources).2.events = run.events ++ story ∧
        came <+: sources ∧ (report.cancelled = false ↔ came = sources) ∧
        Event.statuses story = told.flatMap (fun turn => turn.aside ++ [turn.entry]) ∧
        (∀ turn ∈ told, turn.aside = [] ∨ ∃ state, ∃ source ∈ came,
          turn.aside = Event.statuses (provider.fetch state source).events) ∧
        (told.map Told.entry).map Prod.fst = came.map Source.name ∧
        report.Agrees (told.map Told.entry)) ∧
    (provider.TellsNoStatus → ∀ (run : Run π Screen.Dashboard) (sources : List Source),
      (sources.map Source.name).Nodup →
      run.display.board.sources = (Screen.Board.start (sources.map Source.name)).sources →
      ∃ came rest entries report,
        sources = came ++ rest ∧
        (ingestAll provider Screen.Dashboard.display options run sources).1 = .ok report ∧
        (report.cancelled = false ↔ rest = []) ∧
        entries.map Prod.fst = came.map Source.name ∧ report.Agrees entries ∧
        (ingestAll provider Screen.Dashboard.display options run sources).2.display.board.sources =
          entries ++ rest.map fun source => (source.name, .pending)) := by
  refine ⟨?_, ?_⟩
  · intro δ display run sources
    obtain ⟨report, hreport, hwhole, hagrees⟩ := report_agrees hkeep display run sources
    obtain ⟨story, hevents, hstatuses, -⟩ := ingestAll_story provider display hkeep run sources
    exact ⟨_, _, story, report, hreport, hevents,
      passed_prefixOf provider display options run sources, hwhole, hstatuses,
      fun turn => Standing.aside_of_mem_told, Standing.names_told _ _ _ _, hagrees⟩
  · intro hsilent run sources hnodup hstart
    obtain ⟨report, hreport, hwhole, hagrees⟩ :=
      report_agrees hkeep Screen.Dashboard.display run sources
    obtain ⟨rest, hlist⟩ :=
      passed_prefixOf provider Screen.Dashboard.display options run sources
    refine ⟨_, rest, _, report, hlist.symm, hreport, ?_, Standing.names_told _ _ _ _, hagrees, ?_⟩
    · rw [hwhole, ← List.append_right_eq_self, hlist, eq_comm]
    · rw [dashboard_sources hkeep hsilent hnodup hstart hlist, Screen.Board.waiting, List.map_map]
      rfl

end Records

/-- A run over three sources before a dashboard, where somebody quits before the third. -/
def watchedRun : Run (List (String × List UInt8)) Screen.Dashboard :=
  ⟨Database.fresh, twoPayloads,
    Screen.Dashboard.start (threeSources.map Source.name) [.pointer, .resize, .key 'q' false], []⟩

theorem records_of_watchedRun_agree :
    ∃ came rest entries report,
      threeSources = came ++ rest ∧ rest ≠ [] ∧
      (ingestAll Provider.memory Screen.Dashboard.display {} watchedRun threeSources).1 =
        .ok report ∧
      report.failed = [("stats", "404 for https://example.org/stats")] ∧ report.Agrees entries ∧
      (ingestAll Provider.memory Screen.Dashboard.display {} watchedRun
        threeSources).2.display.board.sources =
          entries ++ rest.map fun source => (source.name, .pending) := by
  have hends : (ingestAll Provider.memory Screen.Dashboard.display {} watchedRun
      threeSources).1 = .ok ⟨[("types", 1)], [],
        [("stats", "404 for https://example.org/stats")], true⟩ := by decide +kernel
  obtain ⟨came, rest, entries, report, hlist, hreport, hwhole, -, hagrees, hboard⟩ :=
    (@records_agree _ Provider.memory {} rfl).2 Provider.tellsNoStatus_memory watchedRun
      threeSources (by decide) rfl
  rw [hends, Except.ok.injEq] at hreport
  subst hreport
  exact ⟨came, rest, entries, _, hlist, fun hnone => absurd (hwhole.mpr hnone) (by decide), hends,
    rfl, hagrees, hboard⟩

end DatasetSync
