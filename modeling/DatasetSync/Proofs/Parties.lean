/-
Parties of a run that stand in for others.

A run knows its provider and its display only by what they answer.  So a provider that
shows, through a view of its states, what another one shows, and answers as that one
does, can stand in the other's place; and so can a display.  Seen through the views, the
two runs are one: each step comes out alike, and they come as far.

This is proved once, by induction along the run.  It is used for parties that keep
something in addition, as a list of what they were asked.
-/
import DatasetSync.Proofs.Runs

namespace DatasetSync

variable {π ρ δ ε : Type}

/-! ### Providers and displays that go along with others -/

/-- Seen through a view, a provider does what another one does. -/
def Provider.GoesAlong (provider : Provider π) (other : Provider ρ) (seen : π → ρ) : Prop :=
  ∀ state source, other.fetch (seen state) source =
    ⟨(provider.fetch state source).result, seen (provider.fetch state source).next,
      (provider.fetch state source).events⟩

/-- Seen through a view, a display does what another one does. -/
structure Display.GoesAlong (display : Display δ) (other : Display ε) (view : δ → ε) : Prop where
  tell : ∀ d event, view (display.tell d event) = other.tell (view d) event
  asksToStop : ∀ d, other.asksToStop (view d) = (display.asksToStop d).map id view

theorem Provider.GoesAlong.refl (provider : Provider π) : provider.GoesAlong provider id :=
  fun _ _ => rfl

theorem Display.GoesAlong.refl (display : Display δ) : display.GoesAlong display id :=
  ⟨fun _ _ => rfl, fun _ => rfl⟩

/-- A step with what a view shows of its provider. -/
def Step.seenBy (seen : π → ρ) (step : Step π) : Step ρ :=
  ⟨step.result, step.database, seen step.provider, step.events⟩

/-- A run with what views show of its provider and of its display. -/
def Run.seenBy (seen : π → ρ) (view : δ → ε) (run : Run π δ) : Run ρ ε :=
  ⟨run.database, seen run.provider, view run.display, run.events⟩

/-! ### One step -/

/-- Through the view, a step is the step with the other provider. -/
theorem Provider.GoesAlong.ingestSource {provider : Provider π} {other : Provider ρ}
    {seen : π → ρ} (h : provider.GoesAlong other seen) (options : IngestOptions) (db : Database)
    (state : π) (source : Source) :
    (DatasetSync.ingestSource provider options db state source).seenBy seen =
      DatasetSync.ingestSource other options db (seen state) source := by
  unfold DatasetSync.ingestSource
  rw [h state source]
  cases checkSource source with
  | error cause => rfl
  | ok _ =>
      dsimp only
      split
      · rfl
      · split
        · rfl
        · split <;> rfl

/-! ### Runs -/

section Runs

variable {provider : Provider π} {provider' : Provider ρ} {seen : π → ρ} {display : Display δ}
  {display' : Display ε} {view : δ → ε}

theorem Display.GoesAlong.seenBy_emit (h : display.GoesAlong display' view) (run : Run π δ)
    (events : List Event) :
    (run.emit display events).seenBy seen view = (run.seenBy seen view).emit display' events := by
  have htold : view (events.foldl display.tell run.display) =
      events.foldl display'.tell (view run.display) :=
    (List.foldl_hom view fun d event => (h.tell d event).symm).symm
  rw [Run.emit, Run.seenBy, htold]
  rfl

theorem Display.GoesAlong.seenBy_watched (h : display.GoesAlong display' view) (run : Run π δ) :
    (run.watched display).seenBy seen view = (run.seenBy seen view).watched display' := by
  rw [Run.watched, Run.watched, Run.seenBy, Run.seenBy, h.asksToStop]
  rfl

theorem seenBy_after (hdisplay : display.GoesAlong display' view) (run : Run π δ)
    (step : Step π) (more : List Event) :
    (run.after display step more).seenBy seen view =
      (run.seenBy seen view).after display' (step.seenBy seen) more :=
  hdisplay.seenBy_emit _ _

/-- Through the views, a run is the run of the other parties, and comes as far. -/
theorem seenBy_ingestFrom (hprovider : provider.GoesAlong provider' seen)
    (hdisplay : display.GoesAlong display' view) (options : IngestOptions) (run : Run π δ)
    (report : Report) (sources : List Source) :
    (ingestFrom provider display options run report sources).map id (Run.seenBy seen view) =
        ingestFrom provider' display' options (run.seenBy seen view) report sources ∧
      passed provider display options run sources =
        passed provider' display' options (run.seenBy seen view) sources := by
  induction sources generalizing run report with
  | nil => exact ⟨rfl, rfl⟩
  | cons source rest ih =>
      have hstep : (run.standing.step provider options source).seenBy seen =
          (run.seenBy seen view).standing.step provider' options source :=
        hprovider.ingestSource options run.database run.provider source
      have hresult : ((run.seenBy seen view).standing.step provider' options source).result =
          (run.standing.step provider options source).result :=
        congrArg Step.result hstep.symm
      have hasked : (display'.asksToStop (run.seenBy seen view).display).1 =
          (display.asksToStop run.display).1 :=
        congrArg Prod.fst (hdisplay.asksToStop run.display)
      -- The answer and the outcome of the step are the same for both, and so is how the turn ends.
      rcases turn_cases provider display options run source with
        hstop | ⟨hgo, hon⟩ | ⟨hgo, hstopping, failure, hfailed⟩
      · obtain ⟨hends, hpassed⟩ := ingestFrom_of_stop provider options source hstop report rest
        obtain ⟨hends', hpassed'⟩ :=
          ingestFrom_of_stop provider' options source (hasked.trans hstop) report rest
        rw [hends, hpassed, hends', hpassed', ← hdisplay.seenBy_watched]
        exact ⟨rfl, rfl⟩
      · have hgone : (run.goneOn provider display options source).seenBy seen view =
            (run.seenBy seen view).goneOn provider' display' options source := by
          rw [Run.goneOn, Run.goneOn, seenBy_after hdisplay, hdisplay.seenBy_watched, hstep,
            hresult]
        obtain ⟨hends, hpassed⟩ := ingestFrom_of_goesOn provider options source hgo hon report rest
        rw [← hresult] at hon
        obtain ⟨hends', hpassed'⟩ :=
          ingestFrom_of_goesOn provider' options source (hasked.trans hgo) hon report rest
        rw [hends, hpassed, hends', hpassed', ← hgone, hresult]
        exact (ih _ _).imp_right (congrArg (source :: ·))
      · obtain ⟨hends, hpassed⟩ :=
          ingestFrom_of_givesUp provider options source hgo hstopping hfailed report rest
        obtain ⟨hends', hpassed'⟩ := ingestFrom_of_givesUp provider' options source
          (hasked.trans hgo) hstopping (hresult.trans hfailed) report rest
        rw [hends, hpassed, hends', hpassed', ← hstep, ← hdisplay.seenBy_watched,
          ← seenBy_after hdisplay]
        exact ⟨rfl, rfl⟩

/-- Through the views, a whole run ends as the run of the other parties. -/
theorem seenBy_ingestAll (hprovider : provider.GoesAlong provider' seen)
    (hdisplay : display.GoesAlong display' view) (options : IngestOptions) (run : Run π δ)
    (sources : List Source) :
    (ingestAll provider display options run sources).map id (Run.seenBy seen view) =
      ingestAll provider' display' options (run.seenBy seen view) sources := by
  have hrun := (seenBy_ingestFrom hprovider hdisplay options run {} sources).1
  rcases hends : ingestFrom provider display options run {} sources with ⟨result, next⟩
  rw [hends] at hrun
  cases result with
  | ok report =>
      rw [ingestAll, ingestAll, hends, ← hrun]
      exact congrArg (Prod.mk _) (hdisplay.seenBy_emit _ _)
  | error failure =>
      rw [ingestAll, ingestAll, hends, ← hrun]
      rfl

end Runs

end DatasetSync
