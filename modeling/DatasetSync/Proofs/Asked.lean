/-
Which payloads a run asks for, and what it is given.

A provider can keep a list of the sources that it was asked for, in a state of its
own beside that of the provider.  Such a list holds every request of a run and
nothing else, whatever events a provider makes known.  Keeping it changes nothing
but the list: forgetting it gives the run without it, step by step and so for whole
runs.

Of some providers more is known: their answers depend on the source alone, whatever
they were asked before.  A step leaves such a provider in a state from which it goes
on giving the same answers.
-/
import DatasetSync.Proofs.Parties

namespace DatasetSync

variable {π δ : Type}

/-- The provider that also keeps a list of the sources it was asked for. -/
def Provider.recording (provider : Provider π) : Provider (π × List Source) where
  fetch state source :=
    let fetched := provider.fetch state.1 source
    ⟨fetched.result, (fetched.next, state.2 ++ [source]), fetched.events⟩

/-- The step for a source asks for its payload: the name can be that of a table, and a table that
is there is to be replaced. -/
structure Asks (options : IngestOptions) (db : Database) (source : Source) : Prop where
  checked : checkSource source = .ok ()
  wanted : db.hasTable source.name = true → options.force = true

/-- A step without the list. -/
def Step.forget (step : Step (π × List Source)) : Step π :=
  ⟨step.result, step.database, step.provider.1, step.events⟩

/-- A run without the list. -/
def Run.forget (run : Run (π × List Source) δ) : Run π δ :=
  ⟨run.database, run.provider.1, run.display, run.events⟩

/-! ### One step -/

theorem provider_ingestSource_of_asks (provider : Provider π) {options : IngestOptions}
    {db : Database} (state : π) {source : Source} (h : Asks options db source) :
    (ingestSource provider options db state source).provider =
      (provider.fetch state source).next := by
  have hgo : (db.hasTable source.name && !options.force) = false := by
    cases hthere : db.hasTable source.name with
    | true => simp [h.wanted hthere]
    | false => rfl
  simp only [ingestSource, h.checked, hgo, Bool.false_eq_true, if_false]
  split
  · rfl
  · split <;> rfl

theorem provider_ingestSource_of_not_asks (provider : Provider π) {options : IngestOptions}
    {db : Database} (state : π) {source : Source} (h : ¬Asks options db source) :
    (ingestSource provider options db state source).provider = state := by
  unfold ingestSource
  split
  · rfl
  · rename_i hchecked
    have hskip : (db.hasTable source.name && !options.force) = true := by
      rw [Bool.and_eq_true, Bool.not_eq_true']
      refine ⟨?_, ?_⟩
      · by_contra hmissing
        exact h ⟨hchecked, fun hthere => absurd hthere hmissing⟩
      · by_contra hforce
        exact h ⟨hchecked, fun _ => by simpa using hforce⟩
    dsimp only
    rw [hskip]
    rfl

/-- Keeping the list changes nothing else about a provider. -/
theorem Provider.recording_goesAlong (provider : Provider π) :
    provider.recording.GoesAlong provider Prod.fst :=
  fun _ _ => rfl

/-- Keeping the list changes nothing else about a step. -/
theorem forget_ingestSource (provider : Provider π) (options : IngestOptions) (db : Database)
    (state : π × List Source) (source : Source) :
    (ingestSource provider.recording options db state source).forget =
      ingestSource provider options db state.1 source :=
  provider.recording_goesAlong.ingestSource options db state source

/-! ### Runs -/

/-- Keeping the list changes nothing else about a run, nor how far it comes. -/
theorem forget_ingestFrom (provider : Provider π) (display : Display δ) (options : IngestOptions)
    (run : Run (π × List Source) δ) (report : Report) (sources : List Source) :
    (ingestFrom provider.recording display options run report sources).map id Run.forget =
        ingestFrom provider display options run.forget report sources ∧
      passed provider.recording display options run sources =
        passed provider display options run.forget sources :=
  seenBy_ingestFrom provider.recording_goesAlong (.refl display) options run report sources

theorem forget_ingestAll (provider : Provider π) (display : Display δ) (options : IngestOptions)
    (run : Run (π × List Source) δ) (sources : List Source) :
    (ingestAll provider.recording display options run sources).map id Run.forget =
      ingestAll provider display options run.forget sources :=
  seenBy_ingestAll provider.recording_goesAlong (.refl display) options run sources

/-! ### The sources that are asked for -/

/-- A run whose provider keeps a list of the sources it is asked for. -/
def Run.recording (run : Run π δ) : Run (π × List Source) δ :=
  ⟨run.database, (run.provider, []), run.display, run.events⟩

/-- The sources that a provider is asked for in a run, in their order. -/
def asked (provider : Provider π) (display : Display δ) (options : IngestOptions) (run : Run π δ)
    (sources : List Source) : List Source :=
  (ingestAll provider.recording display options run.recording sources).2.provider.2

namespace Standing

variable {provider : Provider π} {options : IngestOptions}

theorem database_after_recording (here : Standing (π × List Source)) (sources : List Source) :
    (here.after provider.recording options sources).database =
      (Standing.after provider options ⟨here.database, here.provider.1⟩ sources).database := by
  induction sources generalizing here with
  | nil => rfl
  | cons source rest ih =>
      have hstep := forget_ingestSource provider options here.database here.provider source
      rw [after_cons, ih, after_cons]
      unfold next step
      rw [← hstep]
      rfl

/-- A step that asks for its source puts it at the end of the list, any other keeps the list. -/
theorem requests_next (provider : Provider π) (options : IngestOptions)
    (here : Standing (π × List Source)) (source : Source) :
    (Asks options here.database source ∧
      (here.next provider.recording options source).provider.2 = here.provider.2 ++ [source]) ∨
    (here.next provider.recording options source).provider.2 = here.provider.2 := by
  by_cases hasks : Asks options here.database source
  · exact Or.inl ⟨hasks, congrArg Prod.snd (provider_ingestSource_of_asks _ _ hasks)⟩
  · exact Or.inr (congrArg Prod.snd (provider_ingestSource_of_not_asks _ _ hasks))

/-- Nothing is taken out of the list. -/
theorem requests_prefix_after (here : Standing (π × List Source)) (sources : List Source) :
    here.provider.2 <+: (here.after provider.recording options sources).provider.2 := by
  refine after_preserves (P := fun there => here.provider.2 <+: there.provider.2) ?_ here
    List.prefix_rfl
  intro there source _ h
  rcases there.requests_next provider options source with
    ⟨-, hlist⟩ | hlist
  · rw [hlist]
    exact h.trans (List.prefix_append _ _)
  · rw [hlist]
    exact h

/-- Whoever is in the list was in it before, or is a source whose step asks for it. -/
theorem asks_of_mem (here : Standing (π × List Source)) {sources : List Source} {source : Source}
    (h : source ∈ (here.after provider.recording options sources).provider.2) :
    source ∈ here.provider.2 ∨ ∃ before, before ++ [source] <+: sources ∧
      Asks options (here.after provider.recording options before).database source := by
  induction sources generalizing here with
  | nil => exact Or.inl h
  | cons first rest ih =>
      rcases ih (here.next provider.recording options first) h with hbefore | ⟨before, hpre, hasks⟩
      · rcases here.requests_next provider options first with
          ⟨hasks, hlist⟩ | hlist
        · rw [hlist, List.mem_append, List.mem_singleton] at hbefore
          rcases hbefore with hbefore | rfl
          · exact Or.inl hbefore
          · exact Or.inr ⟨[], by simp, hasks⟩
        · rw [hlist] at hbefore
          exact Or.inl hbefore
      · exact Or.inr ⟨first :: before, by simpa using hpre, hasks⟩

end Standing

/-- What is asked for in a run is what the steps for the sources that it comes to ask for. -/
theorem asked_eq (provider : Provider π) (display : Display δ) (options : IngestOptions)
    (run : Run π δ) (sources : List Source) :
    asked provider display options run sources =
      (run.recording.standing.after provider.recording options
        (passed provider display options run sources)).provider.2 := by
  have hends := ingestAll_standing provider.recording display options run.recording sources
  rw [(forget_ingestFrom provider display options run.recording {} sources).2] at hends
  exact congrArg (fun here => here.provider.2) hends

/-- The step for a source that is asked for asks for it, where the steps for the sources before it
lead. -/
theorem asks_of_mem_asked {provider : Provider π} {display : Display δ} {options : IngestOptions}
    {run : Run π δ} {sources : List Source} {source : Source}
    (h : source ∈ asked provider display options run sources) :
    ∃ before, before ++ [source] <+: sources ∧
      Asks options (run.standing.after provider options before).database source := by
  rw [asked_eq] at h
  rcases Standing.asks_of_mem _ h with hnone | ⟨before, hbefore, hasks⟩
  · simp [Run.recording, Run.standing] at hnone
  · rw [Standing.database_after_recording] at hasks
    exact ⟨before, hbefore.trans (passed_prefixOf _ _ _ _ _), hasks⟩

/-! ### Answers that depend on the source alone -/

namespace Provider

/-- The state of a provider after some requests. -/
def afterRequests (provider : Provider π) (state : π) (requests : List Source) : π :=
  requests.foldl (fun state source => (provider.fetch state source).next) state

/-- From a state on, the provider's answers are those of a function of the source, whatever it was
asked before. -/
def Answers (provider : Provider π) (state : π)
    (answer : Source → Except Failure (List UInt8)) : Prop :=
  ∀ requests source,
    (provider.fetch (provider.afterRequests state requests) source).result = answer source

variable {provider : Provider π} {state : π} {answer : Source → Except Failure (List UInt8)}

theorem Answers.result (h : provider.Answers state answer) (source : Source) :
    (provider.fetch state source).result = answer source :=
  h [] source

theorem Answers.next (h : provider.Answers state answer) (source : Source) :
    provider.Answers (provider.fetch state source).next answer :=
  fun requests => h (source :: requests)

/-- A step leaves a provider in a state from which it gives the same answers. -/
theorem Answers.ingestSource (h : provider.Answers state answer) (options : IngestOptions)
    (db : Database) (source : Source) :
    provider.Answers (ingestSource provider options db state source).provider answer := by
  by_cases hasks : Asks options db source
  · rw [provider_ingestSource_of_asks provider state hasks]
    exact h.next source
  · rw [provider_ingestSource_of_not_asks provider state hasks]
    exact h

/-- Payloads in memory stay as they are. -/
theorem answers_memory (payloads : List (String × List UInt8)) :
    memory.Answers payloads fun source => (memory.fetch payloads source).result := by
  intro requests source
  have hstays : memory.afterRequests payloads requests = payloads := by
    induction requests with
    | nil => rfl
    | cons first rest ih =>
        have hfirst : (memory.fetch payloads first).next = payloads := by
          unfold memory
          dsimp only
          split <;> rfl
        rw [afterRequests, List.foldl_cons, hfirst]
        exact ih
  rw [hstays]

end Provider

end DatasetSync
