/-
Stopping at the first failure.

A run can stop at the first failure or go on after it.  Up to the first failure the two
are the same run, whoever watches and whatever the provider remembers, since a step does
not know what becomes of the run when it fails.  So either nothing fails and the runs
never part, or they part behind the source that failed: the one ends there, and the
other goes on from the very state in which the one ended, but for a line in the log.

This is one induction along the list.  What the provider is asked for and what the
database holds in the end depend only on how far down the list a run comes, so both
follow from it.
-/
import DatasetSync.Proofs.Resumption

namespace DatasetSync

variable {π δ : Type}

/-- The options of a run that goes on after failures. -/
def IngestOptions.goingOn (options : IngestOptions) : IngestOptions :=
  { options with keepGoing := true }

/-- The options of a run that stops at the first failure. -/
def IngestOptions.stopping (options : IngestOptions) : IngestOptions :=
  { options with keepGoing := false }

/-- A step is the same in both. -/
theorem Standing.step_stopping (provider : Provider π) (options : IngestOptions)
    (here : Standing π) (source : Source) :
    here.step provider options.stopping source = here.step provider options.goingOn source := rfl

theorem Standing.after_stopping (provider : Provider π) (options : IngestOptions)
    (here : Standing π) (sources : List Source) :
    here.after provider options.stopping sources = here.after provider options.goingOn sources :=
  rfl

/-! ### Where the two runs part -/

/-- The run that stops at the first failure stops over a source.  The other has come to this source
too, and goes on from where the one stopped. -/
structure StopsAt (provider : Provider π) (display : Display δ) (options : IngestOptions)
    (run : Run π δ) (report : Report) (sources before : List Source) (source : Source)
    (rest : List Source) (failure : Failure) (stopped : Run π δ) (sofar : Report) : Prop where
  list : sources = before ++ source :: rest
  ends : ingestFrom provider display options.stopping run report sources =
    (.error (failure.within (.ingesting source.name)), stopped)
  comesTo : passed provider display options.stopping run sources = before ++ [source]
  /-- The report of the other run at this point has one failure more. -/
  failed : sofar.failed = report.failed ++ [(source.name, failure.message)]
  /-- Whatever comes behind the source, the other run goes on with it from here. -/
  goesOn : ∀ more,
    ingestFrom provider display options.goingOn run report (before ++ source :: more) =
      ingestFrom provider display options.goingOn
        (stopped.emit display [failureLine source failure]) sofar more ∧
    passed provider display options.goingOn run (before ++ source :: more) =
      before ++ source :: passed provider display options.goingOn
        (stopped.emit display [failureLine source failure]) more

/-- The run behind the step for a source that failed, as it stops there. -/
def Run.stoppedOver (provider : Provider π) (display : Display δ) (options : IngestOptions)
    (run : Run π δ) (source : Source) (failure : Failure) : Run π δ :=
  (run.watched display).after display (run.standing.step provider options source)
    (closingEvents source (.error failure))

section Turns

variable {provider : Provider π} {display : Display δ} {options : IngestOptions} {run : Run π δ}
  {source : Source}

/-- Where one run stops, the other goes on with a line in the log. -/
theorem Run.goneOn_of_error {failure : Failure}
    (hresult : (run.standing.step provider options.goingOn source).result = .error failure) :
    run.goneOn provider display options.goingOn source =
      (run.stoppedOver provider display options.stopping source failure).emit display
        [failureLine source failure] := by
  simp [goneOn, stoppedOver, Standing.step_stopping, hresult, turnEvents, Run.after, emit]

/-- The runs part over the first source of the list. -/
theorem stopsAt_first (hgo : (display.asksToStop run.display).1 = false) {failure : Failure}
    (hresult : (run.standing.step provider options.goingOn source).result = .error failure)
    (report : Report) (rest : List Source) :
    StopsAt provider display options run report (source :: rest) [] source rest failure
      (run.stoppedOver provider display options.stopping source failure)
      (report.extend [(source, .error failure)]) := by
  obtain ⟨hends, hpassed⟩ := ingestFrom_of_givesUp provider options.stopping source hgo rfl
    hresult report rest
  refine ⟨rfl, hends, hpassed, by rw [Report.extend_failed], fun more => ?_⟩
  rw [← Run.goneOn_of_error hresult, ← hresult]
  exact ingestFrom_of_goesOn provider options.goingOn source hgo (Or.inl rfl) report more

theorem failed_extend_ok (report : Report) (source : Source) (outcome : Outcome) :
    (report.extend [(source, .ok outcome)]).failed = report.failed := by
  simp [Report.extend, List.filterMap, failedItem?]

/-- Over a source that does not fail, the runs go on alike. -/
theorem ingestFrom_of_ok (hgo : (display.asksToStop run.display).1 = false) {outcome : Outcome}
    (hresult : (run.standing.step provider options.goingOn source).result = .ok outcome)
    (report : Report) (rest : List Source) (keepGoing : Bool) :
    ingestFrom provider display { options with keepGoing } run report (source :: rest) =
        ingestFrom provider display { options with keepGoing }
          (run.goneOn provider display options.goingOn source)
          (report.extend [(source, .ok outcome)]) rest ∧
      passed provider display { options with keepGoing } run (source :: rest) =
        source :: passed provider display { options with keepGoing }
          (run.goneOn provider display options.goingOn source) rest := by
  rw [← hresult]
  exact ingestFrom_of_goesOn provider { options with keepGoing } source hgo
    (Or.inr ⟨outcome, hresult⟩) report rest

/-- The runs part later if they go on over the first source and part behind it. -/
theorem StopsAt.cons (hgo : (display.asksToStop run.display).1 = false) {outcome : Outcome}
    (hresult : (run.standing.step provider options.goingOn source).result = .ok outcome)
    {report : Report} {others before : List Source} {failing : Source} {rest : List Source}
    {failure : Failure} {stopped : Run π δ} {sofar : Report}
    (h : StopsAt provider display options (run.goneOn provider display options.goingOn source)
      (report.extend [(source, .ok outcome)]) others before failing rest failure stopped sofar) :
    StopsAt provider display options run report (source :: others) (source :: before) failing rest
      failure stopped sofar where
  list := by rw [h.list, List.cons_append]
  ends := (ingestFrom_of_ok hgo hresult report others false).1.trans h.ends
  comesTo := by
    rw [List.cons_append, ← h.comesTo]
    exact (ingestFrom_of_ok hgo hresult report others false).2
  failed := by rw [h.failed, failed_extend_ok]
  goesOn more := by
    obtain ⟨hends, hpassed⟩ := h.goesOn more
    obtain ⟨hfirst, hfirstpassed⟩ :=
      ingestFrom_of_ok hgo hresult report (before ++ failing :: more) true
    refine ⟨hfirst.trans hends, hfirstpassed.trans ?_⟩
    rw [List.cons_append, ← hpassed]
    rfl

end Turns

/-- Either both runs are the same and nothing fails, or the one stops over a source. -/
theorem ingestFrom_stopping (provider : Provider π) (display : Display δ)
    (options : IngestOptions) (run : Run π δ) (report : Report) (sources : List Source) :
    (ingestFrom provider display options.stopping run report sources =
        ingestFrom provider display options.goingOn run report sources ∧
      passed provider display options.stopping run sources =
        passed provider display options.goingOn run sources ∧
      ∃ report', (ingestFrom provider display options.goingOn run report sources).1 = .ok report' ∧
        report'.failed = report.failed) ∨
    ∃ before source rest failure stopped sofar,
      StopsAt provider display options run report sources before source rest failure stopped
        sofar := by
  induction sources generalizing run report with
  | nil => exact Or.inl ⟨rfl, rfl, report, rfl, rfl⟩
  | cons source rest ih =>
      cases hstop : (display.asksToStop run.display).1 with
      | true =>
          obtain ⟨hgoes, hpassed⟩ := ingestFrom_of_stop provider options.goingOn source hstop
            report rest
          obtain ⟨hstops, hpassed'⟩ := ingestFrom_of_stop provider options.stopping source
            hstop report rest
          exact Or.inl ⟨hstops.trans hgoes.symm, hpassed'.trans hpassed.symm, _,
            congrArg Prod.fst hgoes, rfl⟩
      | false =>
          cases hresult : (run.standing.step provider options.goingOn source).result with
          | error failure =>
              exact Or.inr ⟨_, _, _, _, _, _, stopsAt_first hstop hresult report rest⟩
          | ok outcome =>
              rcases ih (run.goneOn provider display options.goingOn source)
                (report.extend [(source, .ok outcome)]) with
                ⟨hsame, hsamepassed, report', hreport', hfailed⟩ |
                ⟨before, failing, others, failure, stopped, sofar, hstops⟩
              · obtain ⟨hgoes, hpassed⟩ :=
                  ingestFrom_of_ok hstop hresult report rest true
                obtain ⟨hstops, hpassed'⟩ :=
                  ingestFrom_of_ok hstop hresult report rest false
                refine Or.inl ⟨(hstops.trans hsame).trans hgoes.symm, ?_, report',
                  (congrArg Prod.fst hgoes).trans hreport',
                  hfailed.trans (failed_extend_ok report source outcome)⟩
                refine (hpassed'.trans ?_).trans hpassed.symm
                exact congrArg (source :: ·) hsamepassed
              · exact Or.inr ⟨_, _, _, _, _, _, hstops.cons hstop hresult⟩

/-! ### Whole runs -/

section Parting

variable {provider : Provider π} {display : Display δ} {options : IngestOptions} {run : Run π δ}
  {sources before : List Source} {source : Source} {rest : List Source} {failure : Failure}
  {stopped : Run π δ} {report sofar : Report}

/-- Up to the source that failed, the run that goes on has one failure to report. -/
theorem StopsAt.upTo
    (h : StopsAt provider display options run {} sources before source rest failure stopped sofar) :
    (ingestAll provider display options.goingOn run (before ++ [source])).1 = .ok sofar ∧
      sofar.failed = [(source.name, failure.message)] ∧
      passed provider display options.goingOn run (before ++ [source]) = before ++ [source] := by
  obtain ⟨hends, hpassed⟩ := h.goesOn []
  refine ⟨?_, h.failed, hpassed⟩
  rw [result_ingestAll, hends]
  rfl

/-- In the whole report of the run that goes on, the failure of this source comes first. -/
theorem StopsAt.failed_first
    (h : StopsAt provider display options run {} sources before source rest failure stopped sofar)
    (hreport : (ingestAll provider display options.goingOn run sources).1 = .ok report) :
    ∃ others, report.failed = (source.name, failure.message) :: others := by
  rw [result_ingestAll, h.list, (h.goesOn rest).1] at hreport
  have hkeep : options.goingOn.keepGoing = true := rfl
  obtain ⟨cancelled, hends, -⟩ := ingestFrom_of_keepGoing provider display hkeep
    (stopped.emit display [failureLine source failure]) sofar rest
  rw [hends, Except.ok.injEq] at hreport
  subst hreport
  simp [Report.ended, Report.extend, h.failed]

/-- The run that stops takes the steps up to the source that failed. -/
theorem StopsAt.prefix_passed
    (h : StopsAt provider display options run {} sources before source rest failure stopped sofar) :
    before ++ [source] <+: passed provider display options.goingOn run sources := by
  refine ⟨passed provider display options.goingOn
    (stopped.emit display [failureLine source failure]) rest, ?_⟩
  rw [h.list, (h.goesOn rest).2, ← List.append_cons]

end Parting

/-- **A run that stops at the first failure is the beginning of one that goes on.**  If nothing fails,
they are the same run with the same requests.  Otherwise the one fails with the first failure that
the other reports.  It has come to the sources up to the one that failed and to no later one, and
there it has asked for the same payloads as the other and left the same database. -/
theorem stopping_run_agrees (provider : Provider π) (display : Display δ)
    (options : IngestOptions) (run : Run π δ) (sources : List Source) :
    ∃ report, (ingestAll provider display options.goingOn run sources).1 = .ok report ∧
      (report.failed = [] →
        ingestAll provider display options.stopping run sources =
          ingestAll provider display options.goingOn run sources ∧
        asked provider display options.stopping run sources =
          asked provider display options.goingOn run sources) ∧
      (∀ name reason others, report.failed = (name, reason) :: others →
        ∃ before source rest failure sofar,
          sources = before ++ source :: rest ∧ source.name = name ∧
          (ingestAll provider display options.stopping run sources).1 = .error failure ∧
          failure.message = "Failed to ingest " ++ name ++ ": " ++ reason ∧
          passed provider display options.stopping run sources = before ++ [source] ∧
          before ++ [source] <+: passed provider display options.goingOn run sources ∧
          -- The run that goes on, up to and including the source that failed.
          (ingestAll provider display options.goingOn run (before ++ [source])).1 = .ok sofar ∧
          sofar.failed = [(name, reason)] ∧
          (ingestAll provider display options.stopping run sources).2.standing =
            (ingestAll provider display options.goingOn run (before ++ [source])).2.standing ∧
          asked provider display options.stopping run sources =
            asked provider display options.goingOn run (before ++ [source]) ∧
          asked provider display options.goingOn run (before ++ [source]) <+:
            asked provider display options.goingOn run sources) := by
  have hkeep : options.goingOn.keepGoing = true := rfl
  obtain ⟨_, hreport, -⟩ := ingestAll_of_keepGoing provider display hkeep run sources
  refine ⟨_, hreport, ?_⟩
  rcases ingestFrom_stopping provider display options run {} sources with
    ⟨hsame, hpassed, report', hreport', hunfailed⟩ |
    ⟨before, source, rest, failure, stopped, sofar, hstops⟩
  · rw [result_ingestAll, hreport', Except.ok.injEq] at hreport
    rw [← hreport]
    refine ⟨fun _ => ⟨?_, ?_⟩, fun name reason others hfailed => ?_⟩
    · rw [ingestAll, ingestAll, hsame]
    · rw [asked_eq, asked_eq, hpassed, Standing.after_stopping]
    · rw [hunfailed] at hfailed
      contradiction
  · obtain ⟨others', hfirst⟩ := hstops.failed_first hreport
    obtain ⟨hupTo, hone, hpassed⟩ := hstops.upTo
    refine ⟨fun hnone => ?_, fun name reason others hfailed => ?_⟩
    · rw [hfirst] at hnone
      contradiction
    · rw [hfirst, List.cons.injEq, Prod.mk.injEq] at hfailed
      obtain ⟨⟨rfl, rfl⟩, -⟩ := hfailed
      have hends : (ingestAll provider display options.stopping run sources).1 =
          .error (failure.within (.ingesting source.name)) := by
        rw [result_ingestAll, hstops.ends]
      refine ⟨before, source, rest, _, sofar, hstops.list, rfl, hends,
        Failure.message_within _ failure, hstops.comesTo, hstops.prefix_passed, hupTo, hone,
        ?_, ?_, ?_⟩
      · rw [ingestAll_standing, ingestAll_standing, hstops.comesTo, hpassed,
          Standing.after_stopping]
      · rw [asked_eq, asked_eq, hstops.comesTo, hpassed, Standing.after_stopping]
      · obtain ⟨later, hlater⟩ := hstops.prefix_passed
        rw [asked_eq, asked_eq, hpassed, ← hlater,
          Standing.after_append _ (before ++ [source])]
        exact Standing.requests_prefix_after _ later

/-- A run over three sources that stops over the second. -/
theorem stopping_run_stops_over_stats :
    ∃ before source rest failure, threeSources = before ++ source :: rest ∧
      source.name = "stats" ∧
      (ingestAll Provider.memory Display.none (IngestOptions.stopping {})
        (runFrom Database.fresh) threeSources).1 = .error failure ∧
      failure.message = "Failed to ingest stats: 404 for https://example.org/stats" ∧
      passed Provider.memory Display.none (IngestOptions.stopping {}) (runFrom Database.fresh)
        threeSources = before ++ [source] := by
  have hgoes : (ingestAll Provider.memory Display.none (IngestOptions.goingOn {})
      (runFrom Database.fresh) threeSources).1 = .ok ⟨[("types", 1), ("moves", 2)], [],
        [("stats", "404 for https://example.org/stats")], false⟩ := by decide +kernel
  obtain ⟨report, hreport, -, hfails⟩ :=
    stopping_run_agrees Provider.memory Display.none {} (runFrom Database.fresh) threeSources
  rw [hgoes, Except.ok.injEq] at hreport
  subst hreport
  obtain ⟨before, source, rest, failure, _, hlist, hname, hends, hmessage, hpassed, -⟩ :=
    hfails _ _ _ rfl
  exact ⟨before, source, rest, failure, hlist, hname, hends, hmessage, hpassed⟩

end DatasetSync
