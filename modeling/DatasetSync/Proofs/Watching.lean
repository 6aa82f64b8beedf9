/-
What whoever watches keeps through a run.

What a display keeps through the turn of a source, it keeps through all turns of a run,
however the run ends.  This speaks of the end only.  A display that remembers in which
states it was asked whether to stop keeps what it remembers as well; so the same fact
about it says what holds whenever a run asks.
-/
import DatasetSync.Proofs.Parties

namespace DatasetSync

variable {π δ : Type}

/-! ### What is kept -/

/-- What a display keeps in the turn of a source and at the end of a run, whatever source that is
and whatever the provider does. -/
structure Display.Keeps (display : Display δ) (provider : Provider π) (options : IngestOptions)
    (kept : δ → Prop) : Prop where
  asksToStop : ∀ d, kept d → kept (display.asksToStop d).2
  step : ∀ (db : Database) (state : π) (source : Source) (d : δ), kept d →
    kept (((ingestSource provider options db state source).events ++
      closingEvents source (ingestSource provider options db state source).result).foldl
        display.tell d)
  line : ∀ (source : Source) (failure : Failure) (d : δ), kept d →
    kept (display.tell d (failureLine source failure))
  complete : ∀ d, kept d → kept (display.tell d (.notice (.phase .complete)))

namespace Display.Keeps

variable {provider : Provider π} {options : IngestOptions} {display : Display δ} {kept : δ → Prop}

theorem goneOn (h : display.Keeps provider options kept) {run : Run π δ} (hrun : kept run.display)
    (source : Source) : kept (run.goneOn provider display options source).display := by
  have hclosed := h.step run.database run.provider source _ (h.asksToStop _ hrun)
  show kept (((run.standing.step provider options source).events ++
    turnEvents source (run.standing.step provider options source).result).foldl display.tell
      (display.asksToStop run.display).2)
  have hstep : ingestSource provider options run.database run.provider source =
      run.standing.step provider options source := rfl
  rw [hstep] at hclosed
  cases hresult : (run.standing.step provider options source).result with
  | ok outcome =>
      rw [hresult] at hclosed
      exact hclosed
  | error failure =>
      rw [hresult] at hclosed
      rw [turnEvents, ← List.append_assoc, List.foldl_append]
      exact h.line source failure _ hclosed

theorem ingestFrom (h : display.Keeps provider options kept) {run : Run π δ}
    (hrun : kept run.display) (report : Report) (sources : List Source) :
    kept (DatasetSync.ingestFrom provider display options run report sources).2.display := by
  induction sources generalizing run report with
  | nil => exact hrun
  | cons source rest ih =>
      rcases turn_cases provider display options run source with
        hstop | ⟨hgo, hon⟩ | ⟨hgo, hstopping, failure, hfailed⟩
      · rw [(ingestFrom_of_stop provider options source hstop report rest).1]
        exact h.asksToStop _ hrun
      · rw [(ingestFrom_of_goesOn provider options source hgo hon report rest).1]
        exact ih (h.goneOn hrun source) _
      · -- A run that gives up closes the turn first, without the line for the log.
        rw [(ingestFrom_of_givesUp provider options source hgo hstopping hfailed report rest).1]
        have hclosed := h.step run.database run.provider source _ (h.asksToStop _ hrun)
        rw [← hfailed]
        exact hclosed

/-- What a display keeps in each turn holds at the end of a run, however the run ends. -/
theorem ingestAll (h : display.Keeps provider options kept) {run : Run π δ}
    (hrun : kept run.display) (sources : List Source) :
    kept (DatasetSync.ingestAll provider display options run sources).2.display := by
  have hends := h.ingestFrom hrun {} sources
  unfold DatasetSync.ingestAll
  split
  · rename_i heq
    rw [heq] at hends
    exact h.complete _ hends
  · exact hends

end Display.Keeps

/-! ### Displays that remember -/

/-- The display that also keeps the states in which it was asked whether to stop. -/
def Display.remembering (display : Display δ) : Display (δ × List δ) where
  tell d event := (display.tell d.1 event, d.2)
  asksToStop d := ((display.asksToStop d.1).1, (display.asksToStop d.1).2, d.2 ++ [d.1])

/-- A run whose display remembers. -/
def Run.remembering (run : Run π δ) : Run π (δ × List δ) :=
  ⟨run.database, run.provider, (run.display, []), run.events⟩

/-- The states in which a display is asked in a run whether to stop, in their order. -/
def questions (provider : Provider π) (display : Display δ) (options : IngestOptions)
    (run : Run π δ) (sources : List Source) : List δ :=
  (ingestAll provider display.remembering options run.remembering sources).2.display.2

/-- Remembering changes nothing else about a display. -/
theorem Display.remembering_goesAlong (display : Display δ) :
    display.remembering.GoesAlong display Prod.fst :=
  ⟨fun _ _ => rfl, fun _ => rfl⟩

section Remembering

variable {provider : Provider π} {options : IngestOptions} {display : Display δ} {kept : δ → Prop}

theorem Display.foldl_remembering (display : Display δ) (d : δ × List δ) (events : List Event) :
    events.foldl display.remembering.tell d = (events.foldl display.tell d.1, d.2) := by
  induction events generalizing d with
  | nil => rfl
  | cons event rest ih => exact ih _

/-- Remembering changes nothing else about a run. -/
theorem ingestAll_remembering (provider : Provider π) (display : Display δ)
    (options : IngestOptions) (run : Run π δ) (sources : List Source) :
    (ingestAll provider display.remembering options run.remembering sources).map id
        (Run.seenBy id Prod.fst) = ingestAll provider display options run sources :=
  seenBy_ingestAll (.refl provider) display.remembering_goesAlong options run.remembering sources

/-- What a display keeps also holds of all that is remembered. -/
theorem Display.Keeps.remembering (h : display.Keeps provider options kept) :
    display.remembering.Keeps provider options
      fun d => kept d.1 ∧ ∀ asked ∈ d.2, kept asked where
  asksToStop := by
    rintro ⟨d, before⟩ ⟨hd, hbefore⟩
    refine ⟨h.asksToStop d hd, ?_⟩
    intro asked hasked
    rcases List.mem_append.mp hasked with hasked | hasked
    · exact hbefore asked hasked
    · rw [List.mem_singleton.mp hasked]
      exact hd
  step := by
    intro db state source d hd
    rw [display.foldl_remembering]
    exact ⟨h.step db state source d.1 hd.1, hd.2⟩
  line source failure d hd := ⟨h.line source failure d.1 hd.1, hd.2⟩
  complete d hd := ⟨h.complete d.1 hd.1, hd.2⟩

theorem Display.Keeps.questions (h : display.Keeps provider options kept) {run : Run π δ}
    (hrun : kept run.display) (sources : List Source) :
    ∀ d ∈ DatasetSync.questions provider display options run sources, kept d := by
  have hstart : kept run.remembering.display.1 ∧ ∀ d ∈ run.remembering.display.2, kept d :=
    ⟨hrun, fun d hd => absurd hd List.not_mem_nil⟩
  exact (h.remembering.ingestAll hstart sources).2

theorem asked_goneOn (run : Run π (δ × List δ)) (source : Source) :
    (run.goneOn provider display.remembering options source).display.2 =
      run.display.2 ++ [run.display.1] :=
  congrArg Prod.snd (display.foldl_remembering _ _)

/-- Behind the states that are remembered already there is one for each source that a run comes
to. -/
theorem length_asked_ingestFrom (provider : Provider π) (display : Display δ)
    (options : IngestOptions) (run : Run π (δ × List δ)) (report : Report)
    (sources : List Source) :
    run.display.2.length + (passed provider display.remembering options run sources).length ≤
      (ingestFrom provider display.remembering options run report sources).2.display.2.length := by
  induction sources generalizing run report with
  | nil => exact Nat.le_refl _
  | cons source rest ih =>
      rcases turn_cases provider display.remembering options run source with
        hstop | ⟨hgo, hon⟩ | ⟨hgo, hstopping, failure, hfailed⟩
      · obtain ⟨hends, hpassed⟩ := ingestFrom_of_stop provider options source hstop report rest
        rw [hends, hpassed, Run.watched, Display.remembering, List.length_append]
        exact Nat.add_le_add_left (Nat.zero_le 1) _
      · obtain ⟨hends, hpassed⟩ := ingestFrom_of_goesOn provider options source hgo hon report rest
        have hlater := ih (run.goneOn provider display.remembering options source)
          (report.extend [(source, (run.standing.step provider options source).result)])
        rw [asked_goneOn, List.length_append, List.length_singleton] at hlater
        rw [hends, hpassed, List.length_cons]
        omega
      · obtain ⟨hends, hpassed⟩ :=
          ingestFrom_of_givesUp provider options source hgo hstopping hfailed report rest
        have hasked : ((run.watched display.remembering).after display.remembering
            (run.standing.step provider options source)
              (closingEvents source (.error failure))).display.2 =
            run.display.2 ++ [run.display.1] :=
          congrArg Prod.snd (display.foldl_remembering _ _)
        rw [hends, hpassed, hasked, List.length_append]
        exact Nat.le_refl _

/-- A display is asked before each source that its run comes to. -/
theorem length_passed_le_questions (provider : Provider π) (display : Display δ)
    (options : IngestOptions) (run : Run π δ) (sources : List Source) :
    (passed provider display options run sources).length ≤
      (questions provider display options run sources).length := by
  have hasked := length_asked_ingestFrom provider display options run.remembering {} sources
  rw [(seenBy_ingestFrom (.refl provider) display.remembering_goesAlong options run.remembering {}
    sources).2] at hasked
  have hends : questions provider display options run sources =
      (ingestFrom provider display.remembering options run.remembering {} sources).2.display.2 := by
    unfold questions ingestAll
    split
    · rename_i heq
      rw [heq]
      rfl
    · rfl
  rw [hends]
  simpa [Run.remembering, Run.seenBy] using hasked

end Remembering

end DatasetSync
