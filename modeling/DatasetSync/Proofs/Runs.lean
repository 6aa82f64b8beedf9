/-
Runs as lists of steps.

A run takes a step for each source that it comes to, each from where the one before
it ended.  Whoever watches decides only how far down the list the run comes, and so
does a failure, if the run is to stop at the first.  So a run is described by the
sources that it comes to, which are a beginning of its list, and by the steps for
these, which no longer depend on who watches.

This is proved once, by induction along the run; everything that is said about runs
later is an induction over a list of sources.
-/
import DatasetSync.Proofs.Ingest

namespace DatasetSync

variable {π δ : Type}

/-! ### Steps one after the other -/

/-- Where a run stands between two sources, whoever watches it. -/
structure Standing (π : Type) where
  database : Database
  provider : π

def Run.standing (run : Run π δ) : Standing π :=
  ⟨run.database, run.provider⟩

namespace Standing

variable (provider : Provider π) (options : IngestOptions)

/-- The step that is taken for a source. -/
def step (here : Standing π) (source : Source) : Step π :=
  ingestSource provider options here.database here.provider source

/-- Where the step for a source ends. -/
def next (here : Standing π) (source : Source) : Standing π :=
  ⟨(here.step provider options source).database, (here.step provider options source).provider⟩

/-- Where the steps for some sources end. -/
def after (here : Standing π) (sources : List Source) : Standing π :=
  sources.foldl (next provider options) here

/-- Some sources, and how the step for each of them comes out. -/
def outcomes : Standing π → List Source → List (Source × Except Failure Outcome)
  | _, [] => []
  | here, source :: rest =>
    (source, (here.step provider options source).result) ::
      outcomes (here.next provider options source) rest

variable {provider options}

theorem after_cons (here : Standing π) (source : Source) (rest : List Source) :
    here.after provider options (source :: rest) =
      (here.next provider options source).after provider options rest := rfl

theorem after_append (here : Standing π) (first second : List Source) :
    here.after provider options (first ++ second) =
      (here.after provider options first).after provider options second :=
  List.foldl_append

theorem map_fst_outcomes (here : Standing π) (sources : List Source) :
    (here.outcomes provider options sources).map Prod.fst = sources := by
  induction sources generalizing here with
  | nil => rfl
  | cons source rest ih => rw [outcomes, List.map_cons, ih]

/-- Each outcome is that of a step that was taken where the steps before it led. -/
theorem exists_of_mem_outcomes {here : Standing π} {sources : List Source} {source : Source}
    {result : Except Failure Outcome}
    (h : (source, result) ∈ here.outcomes provider options sources) :
    ∃ before rest, sources = before ++ source :: rest ∧
      result = ((here.after provider options before).step provider options source).result := by
  induction sources generalizing here with
  | nil => contradiction
  | cons first others ih =>
      rcases List.mem_cons.mp h with heq | hmem
      · cases heq
        exact ⟨[], others, rfl, rfl⟩
      · obtain ⟨before, rest, rfl, hresult⟩ := ih hmem
        exact ⟨first :: before, rest, rfl, hresult⟩

/-- What the step for each of the sources preserves, all of them preserve. -/
theorem after_preserves {P : Standing π → Prop} {sources : List Source}
    (hstep : ∀ here, ∀ source ∈ sources, P here → P (here.next provider options source))
    (here : Standing π) (h : P here) : P (here.after provider options sources) := by
  induction sources generalizing here with
  | nil => exact h
  | cons source rest ih =>
      refine ih (fun here other hother => hstep here other (by simp [hother])) _ ?_
      exact hstep here source (by simp) h

end Standing

/-! ### The sources that a run comes to -/

/-- The sources that a run comes to before it is asked to stop, and before it stops by itself at a
failure. -/
def passed (provider : Provider π) (display : Display δ) (options : IngestOptions) :
    Run π δ → List Source → List Source
  | _, [] => []
  | run, source :: rest =>
    let (stop, watching) := display.asksToStop run.display
    let run := { run with display := watching }
    if stop then []
    else
      let step := ingestSource provider options run.database run.provider source
      let closing := closingEvents source step.result
      match step.result with
      | .ok _ => source :: passed provider display options (run.after display step closing) rest
      | .error failure =>
        if options.keepGoing then
          source :: passed provider display options
            (run.after display step (closing ++ [failureLine source failure])) rest
        else [source]

/-! ### Reports -/

/-- The entry of a report for a source that was loaded. -/
def loadedItem? : Source × Except Failure Outcome → Option (String × Nat)
  | (source, .ok (.loaded rows _)) => some (source.name, rows)
  | _ => none

/-- The entry of a report for a source whose table was there. -/
def skippedItem? : Source × Except Failure Outcome → Option String
  | (source, .ok .skipped) => some source.name
  | _ => none

/-- The entry of a report for a source that failed. -/
def failedItem? : Source × Except Failure Outcome → Option (String × String)
  | (source, .error failure) => some (source.name, failure.message)
  | _ => none

theorem loadedItem?_eq_some_iff {outcome : Source × Except Failure Outcome}
    {entry : String × Nat} :
    loadedItem? outcome = some entry ↔ ∃ source rows columns,
      outcome = (source, .ok (.loaded rows columns)) ∧ entry = (source.name, rows) := by
  constructor
  · intro h
    rcases outcome with ⟨source, failure | _ | ⟨rows, columns⟩⟩
    · contradiction
    · contradiction
    · cases h
      exact ⟨source, rows, columns, rfl, rfl⟩
  · rintro ⟨source, rows, columns, rfl, rfl⟩
    rfl

theorem skippedItem?_eq_some_iff {outcome : Source × Except Failure Outcome} {name : String} :
    skippedItem? outcome = some name ↔
      ∃ source, outcome = (source, .ok .skipped) ∧ name = source.name := by
  constructor
  · intro h
    rcases outcome with ⟨source, failure | _ | ⟨rows, columns⟩⟩
    · contradiction
    · cases h
      exact ⟨source, rfl, rfl⟩
    · contradiction
  · rintro ⟨source, rfl, rfl⟩
    rfl

theorem failedItem?_eq_some_iff {outcome : Source × Except Failure Outcome}
    {entry : String × String} :
    failedItem? outcome = some entry ↔ ∃ source failure,
      outcome = (source, .error failure) ∧ entry = (source.name, failure.message) := by
  constructor
  · intro h
    rcases outcome with ⟨source, failure | _ | ⟨rows, columns⟩⟩
    · cases h
      exact ⟨source, failure, rfl, rfl⟩
    · contradiction
    · contradiction
  · rintro ⟨source, failure, rfl, rfl⟩
    rfl

namespace Report

/-- A report with the entries for some outcomes at its end. -/
def extend (report : Report) (outcomes : List (Source × Except Failure Outcome)) : Report :=
  { report with
    loaded := report.loaded ++ outcomes.filterMap loadedItem?
    skipped := report.skipped ++ outcomes.filterMap skippedItem?
    failed := report.failed ++ outcomes.filterMap failedItem? }

/-- The report at the end of a run, which was cancelled or not. -/
def ended (report : Report) (cancelled : Bool) : Report :=
  { report with cancelled }

@[simp] theorem extend_nil (report : Report) : report.extend [] = report := by
  simp [extend]

theorem extend_cons (report : Report) (outcome : Source × Except Failure Outcome)
    (rest : List (Source × Except Failure Outcome)) :
    report.extend (outcome :: rest) = (report.extend [outcome]).extend rest := by
  rw [extend, extend, extend, ← List.singleton_append]
  simp only [List.filterMap_append, List.append_assoc]

/-! With one more outcome a report has one more entry. -/

theorem extend_skipped (report : Report) (source : Source) :
    report.extend [(source, .ok .skipped)] =
      { report with skipped := report.skipped ++ [source.name] } := by
  simp [extend, List.filterMap, loadedItem?, skippedItem?, failedItem?]

theorem extend_loaded (report : Report) (source : Source) (rows columns : Nat) :
    report.extend [(source, .ok (.loaded rows columns))] =
      { report with loaded := report.loaded ++ [(source.name, rows)] } := by
  simp [extend, List.filterMap, loadedItem?, skippedItem?, failedItem?]

theorem extend_failed (report : Report) (source : Source) (failure : Failure) :
    report.extend [(source, .error failure)] =
      { report with failed := report.failed ++ [(source.name, failure.message)] } := by
  simp [extend, List.filterMap, loadedItem?, skippedItem?, failedItem?]

end Report

/-! ### One turn of a run

A run is asked whether to stop before it takes the step for a source.  The turn of a source is
described by three equations, one for each way in which it can end.
-/

namespace Run

/-- The run after whoever watches was asked whether to stop. -/
def watched (display : Display δ) (run : Run π δ) : Run π δ :=
  { run with display := (display.asksToStop run.display).2 }

end Run

/-- What is made known behind the step for a source, when the run goes on. -/
def turnEvents (source : Source) : Except Failure Outcome → List Event
  | .ok outcome => closingEvents source (.ok outcome)
  | .error failure => closingEvents source (.error failure) ++ [failureLine source failure]

/-- The run behind the step for a source, as it goes on from there. -/
def Run.goneOn (provider : Provider π) (display : Display δ) (options : IngestOptions)
    (run : Run π δ) (source : Source) : Run π δ :=
  (run.watched display).after display (run.standing.step provider options source)
    (turnEvents source (run.standing.step provider options source).result)

section Turns

variable (provider : Provider π) {display : Display δ} (options : IngestOptions) {run : Run π δ}
  (source : Source)

theorem ingestFrom_of_stop (hstop : (display.asksToStop run.display).1 = true) (report : Report)
    (rest : List Source) :
    ingestFrom provider display options run report (source :: rest) =
        (.ok { report with cancelled := true }, run.watched display) ∧
      passed provider display options run (source :: rest) = [] := by
  simp [ingestFrom, passed, hstop, Run.watched]

theorem ingestFrom_of_goesOn (hgo : (display.asksToStop run.display).1 = false)
    (hon : options.keepGoing = true ∨
      ∃ outcome, (run.standing.step provider options source).result = .ok outcome)
    (report : Report) (rest : List Source) :
    ingestFrom provider display options run report (source :: rest) =
        ingestFrom provider display options (run.goneOn provider display options source)
          (report.extend [(source, (run.standing.step provider options source).result)]) rest ∧
      passed provider display options run (source :: rest) =
        source :: passed provider display options (run.goneOn provider display options source)
          rest := by
  have hstep : ingestSource provider options run.database run.provider source =
      run.standing.step provider options source := rfl
  cases hresult : (run.standing.step provider options source).result with
  | ok outcome =>
      cases outcome with
      | skipped =>
          simp [ingestFrom, passed, hgo, hstep, hresult, Report.extend_skipped, Run.goneOn,
            turnEvents, Run.watched]
      | loaded rows columns =>
          simp [ingestFrom, passed, hgo, hstep, hresult, Report.extend_loaded, Run.goneOn,
            turnEvents, Run.watched]
  | error failure =>
      have hkeep : options.keepGoing = true := by simpa [hresult] using hon
      simp [ingestFrom, passed, hgo, hstep, hresult, hkeep, Report.extend_failed, Run.goneOn,
        turnEvents, Run.watched]

theorem ingestFrom_of_givesUp (hgo : (display.asksToStop run.display).1 = false)
    (hstopping : options.keepGoing = false) {failure : Failure}
    (hresult : (run.standing.step provider options source).result = .error failure)
    (report : Report) (rest : List Source) :
    ingestFrom provider display options run report (source :: rest) =
        (.error (failure.within (.ingesting source.name)),
          (run.watched display).after display (run.standing.step provider options source)
            (closingEvents source (.error failure))) ∧
      passed provider display options run (source :: rest) = [source] := by
  have hstep : ingestSource provider options run.database run.provider source =
      run.standing.step provider options source := rfl
  simp [ingestFrom, passed, hgo, hstep, hresult, hstopping, Run.watched]

end Turns

/-- The three ways in which the turn of a source can end. -/
theorem turn_cases (provider : Provider π) (display : Display δ) (options : IngestOptions)
    (run : Run π δ) (source : Source) :
    (display.asksToStop run.display).1 = true ∨
      ((display.asksToStop run.display).1 = false ∧ (options.keepGoing = true ∨
        ∃ outcome, (run.standing.step provider options source).result = .ok outcome)) ∨
      ((display.asksToStop run.display).1 = false ∧ options.keepGoing = false ∧
        ∃ failure, (run.standing.step provider options source).result = .error failure) := by
  cases hstop : (display.asksToStop run.display).1 with
  | true => exact Or.inl rfl
  | false =>
      refine Or.inr ?_
      cases hkeep : options.keepGoing with
      | true => exact Or.inl ⟨rfl, Or.inl rfl⟩
      | false =>
          cases hresult : (run.standing.step provider options source).result with
          | ok outcome => exact Or.inl ⟨rfl, Or.inr ⟨outcome, rfl⟩⟩
          | error failure => exact Or.inr ⟨rfl, rfl, failure, rfl⟩

/-- What a run does about the first source of its list. -/
inductive Turn (provider : Provider π) (display : Display δ) (options : IngestOptions)
    (run : Run π δ) (report : Report) (source : Source) (rest : List Source) : Prop
  /-- It is asked to stop. -/
  | stops (stop : (display.asksToStop run.display).1 = true) (next : Run π δ)
      (standing : next.standing = run.standing)
      (ends : ingestFrom provider display options run report (source :: rest) =
        (.ok { report with cancelled := true }, next))
      (passed : passed provider display options run (source :: rest) = [])
  /-- It takes the step for the source and goes on. -/
  | goesOn (next : Run π δ) (standing : next.standing = run.standing.next provider options source)
      (ends : ingestFrom provider display options run report (source :: rest) =
        ingestFrom provider display options next
          (report.extend [(source, (run.standing.step provider options source).result)]) rest)
      (passed : passed provider display options run (source :: rest) =
        source :: passed provider display options next rest)
  /-- It takes the step for the source and gives up. -/
  | givesUp (next : Run π δ) (standing : next.standing = run.standing.next provider options source)
      (failure : Failure) (stopping : options.keepGoing = false)
      (result : (run.standing.step provider options source).result = .error failure)
      (ends : ingestFrom provider display options run report (source :: rest) =
        (.error (failure.within (.ingesting source.name)), next))
      (passed : passed provider display options run (source :: rest) = [source])

theorem ingestFrom_turn (provider : Provider π) (display : Display δ) (options : IngestOptions)
    (run : Run π δ) (report : Report) (source : Source) (rest : List Source) :
    Turn provider display options run report source rest := by
  rcases turn_cases provider display options run source with
    hstop | ⟨hgo, hon⟩ | ⟨hgo, hstopping, failure, hresult⟩
  · obtain ⟨hends, hpassed⟩ := ingestFrom_of_stop provider options source hstop report rest
    exact .stops hstop (run.watched display) rfl hends hpassed
  · obtain ⟨hends, hpassed⟩ := ingestFrom_of_goesOn provider options source hgo hon report rest
    exact .goesOn (run.goneOn provider display options source) rfl hends hpassed
  · obtain ⟨hends, hpassed⟩ :=
      ingestFrom_of_givesUp provider options source hgo hstopping hresult report rest
    exact .givesUp _ rfl failure hstopping hresult hends hpassed

/-! ### Whole runs -/

theorem passed_prefixOf (provider : Provider π) (display : Display δ) (options : IngestOptions)
    (run : Run π δ) (sources : List Source) :
    passed provider display options run sources <+: sources := by
  induction sources generalizing run with
  | nil => exact List.prefix_rfl
  | cons source rest ih =>
      cases ingestFrom_turn provider display options run {} source rest with
      | stops _ _ _ _ hpassed =>
          rw [hpassed]
          exact List.nil_prefix
      | goesOn next _ _ hpassed =>
          rw [hpassed]
          exact List.cons_prefix_cons.mpr ⟨rfl, ih next⟩
      | givesUp _ _ _ _ _ _ hpassed =>
          rw [hpassed]
          exact List.cons_prefix_cons.mpr ⟨rfl, List.nil_prefix⟩

/-- With nobody to stop it, a run that goes on after failures comes to all its sources. -/
theorem passed_unwatched (provider : Provider π) {options : IngestOptions}
    (hkeep : options.keepGoing = true) (run : Run π Unit) (sources : List Source) :
    passed provider Display.none options run sources = sources := by
  induction sources generalizing run with
  | nil => rfl
  | cons source rest ih =>
      cases ingestFrom_turn provider Display.none options run {} source rest with
      | stops hstop _ _ _ _ => contradiction
      | goesOn next _ _ hpassed => rw [hpassed, ih]
      | givesUp _ _ _ hstopping _ _ _ =>
          rw [hkeep] at hstopping
          contradiction

/-- A run ends where the steps for the sources that it comes to end. -/
theorem ingestFrom_standing (provider : Provider π) (display : Display δ) (options : IngestOptions)
    (run : Run π δ) (report : Report) (sources : List Source) :
    (ingestFrom provider display options run report sources).2.standing =
      run.standing.after provider options (passed provider display options run sources) := by
  induction sources generalizing run report with
  | nil => rfl
  | cons source rest ih =>
      cases ingestFrom_turn provider display options run report source rest with
      | stops _ next hstanding hends hpassed =>
          rw [hends, hpassed]
          exact hstanding
      | goesOn next hstanding hends hpassed =>
          rw [hends, hpassed, ih, hstanding]
          rfl
      | givesUp next hstanding _ _ _ hends hpassed =>
          rw [hends, hpassed]
          exact hstanding

/-- A run that goes on after failures gives a report.  It has the entries for the sources that the
run comes to, and these are all sources unless it is cancelled. -/
theorem ingestFrom_of_keepGoing (provider : Provider π) (display : Display δ)
    {options : IngestOptions} (hkeep : options.keepGoing = true) (run : Run π δ) (report : Report)
    (sources : List Source) :
    ∃ cancelled, (ingestFrom provider display options run report sources).1 =
        .ok ((report.extend (run.standing.outcomes provider options
          (passed provider display options run sources))).ended cancelled) ∧
      (cancelled = false ↔
        report.cancelled = false ∧ passed provider display options run sources = sources) := by
  induction sources generalizing run report with
  | nil =>
      refine ⟨report.cancelled, ?_, ?_⟩
      · simp [ingestFrom, passed, Standing.outcomes, Report.ended]
      · simp [passed]
  | cons source rest ih =>
      cases ingestFrom_turn provider display options run report source rest with
      | stops _ next _ hends hpassed =>
          refine ⟨true, ?_, by simp [hpassed]⟩
          rw [hends, hpassed]
          simp [Standing.outcomes, Report.ended]
      | goesOn next hstanding hends hpassed =>
          obtain ⟨cancelled, hrest, hall⟩ :=
            ih next (report.extend [(source, (run.standing.step provider options source).result)])
          refine ⟨cancelled, ?_, ?_⟩
          · rw [hends, hrest, hpassed, Standing.outcomes,
              Report.extend_cons report _ (Standing.outcomes _ _ _ _), hstanding]
          · rw [hall, hpassed, List.cons.injEq]
            simp [Report.extend]
      | givesUp _ _ _ hstopping _ _ _ =>
          rw [hkeep] at hstopping
          contradiction

/-- A report has the entries for the sources that the run comes to, whether the run is to stop at
the first failure or not. -/
theorem ingestFrom_eq_ok {provider : Provider π} {display : Display δ} {options : IngestOptions}
    {run : Run π δ} {report last : Report} {sources : List Source}
    (h : (ingestFrom provider display options run report sources).1 = .ok last) :
    ∃ cancelled, last = (report.extend (run.standing.outcomes provider options
      (passed provider display options run sources))).ended cancelled := by
  induction sources generalizing run report with
  | nil =>
      cases h
      exact ⟨last.cancelled, by simp [passed, Standing.outcomes, Report.ended]⟩
  | cons source rest ih =>
      cases ingestFrom_turn provider display options run report source rest with
      | stops _ next _ hends hpassed =>
          rw [hends] at h
          cases h
          exact ⟨true, by simp [hpassed, Standing.outcomes, Report.ended]⟩
      | goesOn next hstanding hends hpassed =>
          rw [hends] at h
          obtain ⟨cancelled, hlast⟩ := ih h
          refine ⟨cancelled, ?_⟩
          rw [hlast, hpassed, Standing.outcomes,
            Report.extend_cons report _ (Standing.outcomes _ _ _ _), hstanding]
      | givesUp _ _ _ _ _ hends _ =>
          rw [hends] at h
          contradiction

/-- A run ends with what came of its sources. -/
theorem result_ingestAll (provider : Provider π) (display : Display δ) (options : IngestOptions)
    (run : Run π δ) (sources : List Source) :
    (ingestAll provider display options run sources).1 =
      (ingestFrom provider display options run {} sources).1 := by
  unfold ingestAll
  split
  · rename_i heq
    rw [heq]
  · rfl

/-- A run that does not fail makes known that it is complete. -/
theorem ingestAll_of_ok {provider : Provider π} {display : Display δ} {options : IngestOptions}
    {run : Run π δ} {sources : List Source} {report : Report}
    (h : (ingestFrom provider display options run {} sources).1 = .ok report) :
    ingestAll provider display options run sources =
      (.ok report, (ingestFrom provider display options run {} sources).2.emit display
        [.notice (.phase .complete)]) := by
  rcases hends : ingestFrom provider display options run {} sources with ⟨result, next⟩
  rw [hends] at h
  cases h
  rw [ingestAll, hends]

/-- Making known that a run is complete leads nowhere else. -/
theorem standing_ingestAll (provider : Provider π) (display : Display δ) (options : IngestOptions)
    (run : Run π δ) (sources : List Source) :
    (ingestAll provider display options run sources).2.standing =
      (ingestFrom provider display options run {} sources).2.standing := by
  unfold ingestAll
  split
  · rename_i heq
    rw [heq]
    rfl
  · rfl

theorem ingestAll_standing (provider : Provider π) (display : Display δ) (options : IngestOptions)
    (run : Run π δ) (sources : List Source) :
    (ingestAll provider display options run sources).2.standing =
      run.standing.after provider options (passed provider display options run sources) := by
  rw [standing_ingestAll, ingestFrom_standing]

theorem database_ingestAll (provider : Provider π) (display : Display δ) (options : IngestOptions)
    (run : Run π δ) (sources : List Source) :
    (ingestAll provider display options run sources).2.database =
      (run.standing.after provider options
        (passed provider display options run sources)).database :=
  congrArg Standing.database (ingestAll_standing provider display options run sources)

/-- What every step preserves, a run preserves. -/
theorem ingestAll_preserves {P : Database → Prop} {provider : Provider π} (display : Display δ)
    {options : IngestOptions}
    (hstep : ∀ db state source, P db → P (ingestSource provider options db state source).database)
    (run : Run π δ) (sources : List Source) (h : P run.database) :
    P (ingestAll provider display options run sources).2.database := by
  rw [database_ingestAll]
  exact Standing.after_preserves (P := fun here => P here.database)
    (fun here source _ => hstep here.database here.provider source) run.standing h

/-- The report of a run that goes on after failures. -/
theorem ingestAll_of_keepGoing (provider : Provider π) (display : Display δ)
    {options : IngestOptions} (hkeep : options.keepGoing = true) (run : Run π δ)
    (sources : List Source) :
    ∃ cancelled, (ingestAll provider display options run sources).1 =
        .ok ((({} : Report).extend (run.standing.outcomes provider options
          (passed provider display options run sources))).ended cancelled) ∧
      (cancelled = false → passed provider display options run sources = sources) := by
  rw [result_ingestAll]
  obtain ⟨cancelled, hends, hall⟩ := ingestFrom_of_keepGoing provider display hkeep run {} sources
  exact ⟨cancelled, hends, fun hwhole => (hall.mp hwhole).2⟩

/-- A run that goes on after failures comes to its end exactly if it is not cancelled. -/
theorem cancelled_eq_false_iff {provider : Provider π} {display : Display δ}
    {options : IngestOptions} {run : Run π δ} {sources : List Source} {report : Report}
    (hkeep : options.keepGoing = true)
    (h : (ingestAll provider display options run sources).1 = .ok report) :
    report.cancelled = false ↔ passed provider display options run sources = sources := by
  obtain ⟨cancelled, hends, hall⟩ := ingestFrom_of_keepGoing provider display hkeep run {} sources
  rw [result_ingestAll, hends, Except.ok.injEq] at h
  subst h
  exact hall.trans (and_iff_right rfl)

/-- A run comes to its end if it goes on after failures and is not cancelled. -/
theorem passed_of_uncancelled {provider : Provider π} {display : Display δ}
    {options : IngestOptions} {run : Run π δ} {sources : List Source} {report : Report}
    (hkeep : options.keepGoing = true)
    (h : (ingestAll provider display options run sources).1 = .ok report)
    (huncancelled : report.cancelled = false) :
    passed provider display options run sources = sources :=
  (cancelled_eq_false_iff hkeep h).mp huncancelled

end DatasetSync
