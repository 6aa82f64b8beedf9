/-
The progress on a dashboard between two sources.

A progress belongs to the source in hand.  A download and a load may tell of some at any
time, and may break off at any time; nobody but the run takes it back.  It does so behind
a load that came out well and in front of the status of a source that failed, and a
source that is skipped tells of none.  So each turn begins and ends without progress,
whatever happened in between.
-/
import DatasetSync.Proofs.Account
import DatasetSync.Proofs.Watching

namespace DatasetSync

variable {π δ : Type}

/-! ### What is shown of progress -/

/-- The progress that is shown after an event. -/
def noteProgress (shown : Option Progress) : Event → Option Progress
  | .notice (.progress progress) => some progress
  | .notice .clearProgress => none
  | _ => shown

/-- The progress of a dashboard follows what it is told. -/
theorem Screen.Dashboard.followsProgress :
    display.Follows (fun d => d.board.progress) noteProgress where
  tell d event := by
    rcases event with (_ | _ | _ | _ | _ | _) | _ | _ <;> rfl
  asksToStop d := by
    show d.poll.board.progress = d.board.progress
    unfold poll
    split
    · rfl
    · dsimp only
      split <;> rfl

/-! ### One source -/

/-- A source that is skipped tells of no progress. -/
theorem events_ingestSource_of_skipped {provider : Provider π} {options : IngestOptions}
    {db : Database} {state : π} {source : Source}
    (h : (ingestSource provider options db state source).result = .ok .skipped) :
    (ingestSource provider options db state source).events = checkingEvents source := by
  rcases ingestSource_cases provider options db state source with
    ⟨d, hload⟩ | ⟨-, -, hchecked, hthere, hunforced⟩ | ⟨failure, hfailed, -⟩
  · rw [hload.result] at h
    obtain ⟨rows, -, houtcome⟩ := loadDataset_eq_ok h
    contradiction
  · simp [ingestSource, hchecked, hthere, hunforced]
  · rw [hfailed] at h
    contradiction

/-- What is made known of a source that is loaded ends with the progress taken back. -/
theorem events_ingestSource_of_loaded {provider : Provider π} {options : IngestOptions}
    {db : Database} {state : π} {source : Source} {rows columns : Nat}
    (h : (ingestSource provider options db state source).result = .ok (.loaded rows columns)) :
    ∃ before, (ingestSource provider options db state source).events =
      before ++ [.notice .clearProgress] := by
  obtain ⟨d, hload, -, hrows⟩ := reachesLoad_of_loaded h
  obtain ⟨payload, hfetched, hparsed⟩ := hload.payload
  have hgo : ¬(db.hasTable source.name && !options.force) = true := by simpa using hload.allowed
  simp only [ingestSource, hload.checked, if_neg hgo, hfetched, parsePayload, during, hparsed,
    mapError_ok, loadDataset, hrows, ← List.append_assoc]
  exact ⟨_, rfl⟩

/-- Behind the turn of a source no progress is shown, if there was none in front of it. -/
theorem foldl_noteProgress_step (provider : Provider π) (options : IngestOptions) (db : Database)
    (state : π) (source : Source) :
    ((ingestSource provider options db state source).events ++
      closingEvents source (ingestSource provider options db state source).result).foldl
        noteProgress none = none := by
  rw [List.foldl_append]
  rcases hresult : (ingestSource provider options db state source).result with
    failure | _ | ⟨rows, columns⟩
  · rfl
  · rw [events_ingestSource_of_skipped hresult]
    rfl
  · obtain ⟨before, hevents⟩ := events_ingestSource_of_loaded hresult
    rw [hevents, List.foldl_append]
    rfl

/-! ### Runs -/

/-- A display that shows the progress shows none before and after each turn. -/
theorem Display.Follows.keepsNoProgress {display : Display δ} {shown : δ → Option Progress}
    (h : display.Follows shown noteProgress) (provider : Provider π) (options : IngestOptions) :
    display.Keeps provider options fun d => shown d = Option.none where
  asksToStop d hd := (h.asksToStop d).trans hd
  step db state source d hd := by
    rw [← List.foldl_hom shown fun d event => (h.tell d event).symm, hd]
    exact foldl_noteProgress_step provider options db state source
  line source failure d hd := (h.tell d _).trans hd
  complete d hd := (h.tell d _).trans hd

namespace Screen.Dashboard

/-- **No progress is left from one source to the next.**  A run in front of a dashboard without
progress asks it before each source whether to stop.  Whatever the provider tells and however the
sources come out, the dashboard shows no progress then, and none when the run ends. -/
theorem no_progress_between_sources (provider : Provider π) (options : IngestOptions)
    (run : Run π Dashboard) (sources : List Source) (h : run.display.board.progress = none) :
    (passed provider display options run sources).length ≤
        (questions provider display options run sources).length ∧
      (∀ d ∈ questions provider display options run sources, d.board.progress = none) ∧
      (ingestAll provider display options run sources).2.display.board.progress = none := by
  have hkeeps := followsProgress.keepsNoProgress provider options
  refine ⟨length_passed_le_questions provider display options run sources, ?_, ?_⟩
  · exact hkeeps.questions h sources
  · exact hkeeps.ingestAll h sources

/-- Payloads in memory, of which half is told to be there at each request. -/
def halfway : Provider (List (String × List UInt8)) where
  fetch payloads source :=
    { Provider.memory.fetch payloads source with
      events := [.notice (.progress ⟨1, 2, source.name⟩)] }

/-- A run that fails over the second source, after half of its payload was told to be there. -/
theorem no_progress_behind_stats :
    let options : IngestOptions := { keepGoing := false }
    let ends := ingestAll halfway display options watchedRun threeSources
    ends.1.toBool = false ∧ Event.notice (.progress ⟨1, 2, "stats"⟩) ∈ ends.2.events ∧
      2 ≤ (questions halfway display options watchedRun threeSources).length ∧
      (∀ d ∈ questions halfway display options watchedRun threeSources,
        d.board.progress = none) ∧
      ends.2.display.board.progress = none := by
  intro options ends
  obtain ⟨hasked, hbetween, hends⟩ :=
    no_progress_between_sources halfway options watchedRun threeSources rfl
  have hpassed : (passed halfway display options watchedRun threeSources).length = 2 := by
    decide +kernel
  rw [hpassed] at hasked
  exact ⟨by decide +kernel, by decide +kernel, hasked, hbetween, hends⟩

end Screen.Dashboard

end DatasetSync
