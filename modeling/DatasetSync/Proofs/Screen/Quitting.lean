/-
The key that ends a run, among others.

Whenever a run asks whether to stop, the dashboard looks at one thing that the terminal
has reported, the oldest that is left.  So a key that quits ends the run when it is the
oldest, and the answer stays the same from then on.  If other things were reported
before it, each of them takes up one question, and one more source is begun.

Keys are typed while a source is in hand.  An attended dashboard has its keys laid out
in advance: with each event of the run, the terminal reports some of them.
-/
import DatasetSync.Proofs.Parties
import DatasetSync.Proofs.Resumption
import DatasetSync.Screen.Dashboard

namespace DatasetSync.Screen

variable {π : Type}

/-! ### Dashboards that somebody attends -/

namespace Dashboard

/-- The terminal reports something more. -/
def reported (d : Dashboard) (inputs : List Input) : Dashboard :=
  { d with pending := d.pending ++ inputs }

/-- What becomes of a dashboard while it is told of events and asked whether to stop, and while the
terminal reports more. -/
inductive Later (d : Dashboard) : Dashboard → Prop
  | now : Later d d
  | told {later : Dashboard} (h : Later d later) (event : Event) :
      Later d (display.tell later event)
  | reported {later : Dashboard} (h : Later d later) (inputs : List Input) :
      Later d (later.reported inputs)
  | asked {later : Dashboard} (h : Later d later) : Later d (display.asksToStop later).2

/-- A key that quits was reported behind `n` other things, and none was looked at. -/
structure QuitPending (d : Dashboard) (n : Nat) : Prop where
  running : d.stopping = false
  pending : d.pending.findIdx? Input.quits = some n

end Dashboard

/-- A dashboard with what the terminal will report, in parts: one with each event. -/
structure Attended where
  dashboard : Dashboard
  coming : List (List Input)
deriving DecidableEq, Repr

/-- The attended dashboard as the display of a run. -/
def Attended.display : Display Attended where
  tell a event :=
    ⟨(Dashboard.display.tell a.dashboard event).reported (a.coming.headD []), a.coming.tail⟩
  asksToStop a :=
    ((Dashboard.display.asksToStop a.dashboard).1,
      ⟨(Dashboard.display.asksToStop a.dashboard).2, a.coming⟩)

namespace Dashboard

variable {d later : Dashboard} {n : Nat}

/-! ### Questions -/

@[simp] theorem reported_nil (d : Dashboard) : d.reported [] = d := by
  rw [reported, List.append_nil]

/-- The oldest thing decides, unless a key that quits was looked at before. -/
theorem asksToStop_eq_true_iff :
    (display.asksToStop d).1 = true ↔
      d.stopping = true ∨ ∃ input, d.pending.head? = some input ∧ input.quits = true := by
  show d.poll.stopping = true ↔ _
  unfold poll
  cases d.pending with
  | nil => simp
  | cons input rest =>
      dsimp only
      split
      · simp [note, *]
      · simp [*]

theorem stopping_tell (d : Dashboard) (event : Event) :
    (display.tell d event).stopping = d.stopping ∧ (display.tell d event).pending = d.pending := by
  cases event <;> exact ⟨rfl, rfl⟩

/-- Once a key that quits was looked at, this is remembered. -/
theorem Later.stopping (h : Later d later) (hd : d.stopping = true) : later.stopping = true := by
  induction h with
  | now => exact hd
  | told _ event ih => exact (stopping_tell _ event).1.trans ih
  | reported _ _ ih => exact ih
  | asked _ ih => exact asksToStop_eq_true_iff.mpr (Or.inl ih)

/-! ### A key behind other things -/

theorem QuitPending.tell (h : d.QuitPending n) (event : Event) :
    (display.tell d event).QuitPending n := by
  obtain ⟨hstopping, hpending⟩ := stopping_tell d event
  refine ⟨hstopping.trans h.running, ?_⟩
  rw [hpending]
  exact h.pending

/-- What is reported later comes behind the key. -/
theorem QuitPending.reported (h : d.QuitPending n) (inputs : List Input) :
    (d.reported inputs).QuitPending n := by
  refine ⟨h.running, ?_⟩
  rw [Dashboard.reported, List.findIdx?_append, h.pending]
  rfl

/-- A key in front of everything else is seen. -/
theorem QuitPending.stops (h : d.QuitPending 0) : (display.asksToStop d).1 = true := by
  have hpending := h.pending
  refine asksToStop_eq_true_iff.mpr (Or.inr ?_)
  cases hinputs : d.pending with
  | nil =>
      rw [hinputs] at hpending
      contradiction
  | cons input rest =>
      rw [hinputs, List.findIdx?_cons] at hpending
      refine ⟨input, rfl, ?_⟩
      cases hquits : input.quits with
      | true => rfl
      | false => simp [hquits] at hpending

/-- Otherwise a question takes one thing in front of the key away. -/
theorem QuitPending.asked (h : d.QuitPending (n + 1)) :
    (display.asksToStop d).1 = false ∧ (display.asksToStop d).2.QuitPending n := by
  have hpending := h.pending
  cases hinputs : d.pending with
  | nil =>
      rw [hinputs] at hpending
      contradiction
  | cons input rest =>
      rw [hinputs, List.findIdx?_cons] at hpending
      cases hquits : input.quits with
      | true => simp [hquits] at hpending
      | false =>
          have hnext : d.poll = { d with pending := rest } := by
            simp [poll, hinputs, hquits]
          have hrest : rest.findIdx? Input.quits = some n := by
            simpa [hquits] using hpending
          show d.poll.stopping = false ∧ d.poll.QuitPending n
          rw [hnext]
          exact ⟨h.running, h.running, hrest⟩

end Dashboard

/-! ### Runs -/

/-- Events of a run, and what is reported meanwhile, leave a key that quits where it is. -/
theorem Attended.quitPending_foldl {a : Attended} {n : Nat} (h : a.dashboard.QuitPending n)
    (events : List Event) : (events.foldl display.tell a).dashboard.QuitPending n := by
  induction events generalizing a with
  | nil => exact h
  | cons event rest ih => exact ih ((h.tell event).reported _)

/-- A run over a list comes to no more than some first sources, and to all of these if it goes on
after failures. -/
def ComesTo (provider : Provider π) (options : IngestOptions) (run : Run π Attended)
    (sources first : List Source) : Prop :=
  passed provider Attended.display options run sources <+: first ∧
    (options.keepGoing = true → passed provider Attended.display options run sources = first)

section Runs

variable {provider : Provider π} {options : IngestOptions} {run : Run π Attended} {n : Nat}

/-- If a run is not asked to stop, the first source is one more that it comes to. -/
theorem ComesTo.cons {source : Source} {rest first : List Source}
    (hgo : (Attended.display.asksToStop run.display).1 = false)
    (h : ComesTo provider options (run.goneOn provider Attended.display options source) rest
      first) :
    ComesTo provider options run (source :: rest) (source :: first) := by
  unfold ComesTo
  rcases turn_cases provider Attended.display options run source with
    hstop | ⟨-, hon⟩ | ⟨-, hstopping, failure, hfailed⟩
  · rw [hgo] at hstop
    contradiction
  · rw [(ingestFrom_of_goesOn provider options source hgo hon {} rest).2]
    exact ⟨List.cons_prefix_cons.mpr ⟨rfl, h.1⟩, fun hkeep => by rw [h.2 hkeep]⟩
  · rw [(ingestFrom_of_givesUp provider options source hgo hstopping hfailed {} rest).2]
    refine ⟨List.cons_prefix_cons.mpr ⟨rfl, List.nil_prefix⟩, fun hkeep => ?_⟩
    rw [hkeep] at hstopping
    contradiction

/-- With a key that quits behind `n` other things, a run comes to `n` sources more. -/
theorem comesTo_of_quitPending (h : run.display.dashboard.QuitPending n) (sources : List Source) :
    ComesTo provider options run sources (sources.take n) := by
  induction sources generalizing run n with
  | nil =>
      rw [List.take_nil]
      exact ⟨List.prefix_rfl, fun _ => rfl⟩
  | cons source rest ih =>
      -- In front of each source one thing is looked at, so list and count become shorter together.
      cases n with
      | zero =>
          have hstop : (Attended.display.asksToStop run.display).1 = true := h.stops
          obtain ⟨-, hpassed⟩ := ingestFrom_of_stop provider options source hstop {} rest
          exact ⟨hpassed ▸ List.prefix_rfl, fun _ => hpassed⟩
      | succ n =>
          have hgo : (Attended.display.asksToStop run.display).1 = false := h.asked.1
          have hnext : (run.goneOn provider Attended.display options
              source).display.dashboard.QuitPending n :=
            Attended.quitPending_foldl h.asked.2 _
          exact (ih hnext).cons hgo

/-- A dashboard for which nothing more is reported is as good as one that nobody attends. -/
theorem Dashboard.goesAlong_attended :
    display.GoesAlong Attended.display fun d => ⟨d, []⟩ where
  tell d event := by
    show _ = Attended.mk ((display.tell d event).reported []) []
    rw [reported_nil]
  asksToStop _ := rfl

/-- A run whose keys were all typed before it comes to as many sources as other things were reported
in front of a key that quits. -/
theorem passed_of_typedBefore {run : Run π Dashboard} (h : run.display.QuitPending n)
    (hkeep : options.keepGoing = true) (sources : List Source) :
    passed provider Dashboard.display options run sources = sources.take n := by
  rw [(seenBy_ingestFrom (.refl provider) Dashboard.goesAlong_attended options run {} sources).2]
  exact (comesTo_of_quitPending h sources).2 hkeep

end Runs

/-- **A key that quits ends a run when nothing is in front of it.**  A dashboard asks to stop if
such a key is the oldest thing that it has not looked at, or if it has looked at one before; and
then it asks to stop ever after.  If a key that quits is reported in the turn of a source, behind
`n` other things, then the run begins at most `n` sources more, and all of these if it goes on
after failures. -/
theorem quit_key_ends_run :
    (∀ d : Dashboard, (Dashboard.display.asksToStop d).1 = true ↔
      d.stopping = true ∨ ∃ input, d.pending.head? = some input ∧ input.quits = true) ∧
    (∀ d later : Dashboard, (Dashboard.display.asksToStop d).1 = true →
      (Dashboard.display.asksToStop d).2.Later later →
        (Dashboard.display.asksToStop later).1 = true) ∧
    (∀ (provider : Provider π) (options : IngestOptions) (run : Run π Attended) (source : Source)
        (rest : List Source) (n : Nat),
      (Attended.display.asksToStop run.display).1 = false →
      (run.goneOn provider Attended.display options source).display.dashboard.QuitPending n →
        passed provider Attended.display options run (source :: rest) <+: source :: rest.take n ∧
        (options.keepGoing = true →
          passed provider Attended.display options run (source :: rest) =
            source :: rest.take n)) := by
  refine ⟨fun d => Dashboard.asksToStop_eq_true_iff, ?_, ?_⟩
  · intro d later hstop hlater
    exact Dashboard.asksToStop_eq_true_iff.mpr (Or.inl (hlater.stopping hstop))
  · intro provider options run source rest n hgo hpending
    exact (comesTo_of_quitPending hpending rest).cons hgo

/-- A run over the sources before a dashboard for which keys are reported while the first of them is
in hand. -/
def typedRun (keys : List Input) : Run (List (String × List UInt8)) Attended :=
  ⟨Database.fresh, twoPayloads,
    ⟨Dashboard.start (threeSources.map Source.name) [], [[], keys]⟩, []⟩

/-- The key to quit, typed while the first source is in hand, keeps the second from being begun. -/
theorem quit_key_in_front :
    passed Provider.memory Attended.display {} (typedRun [.key 'q' false, .key 'a' false])
        threeSources = threeSources.take 1 ∧
      (Dashboard.display.asksToStop (Dashboard.start [] [.key 'c' true])).1 = true := by
  obtain ⟨hasked, -, hrun⟩ := @quit_key_ends_run (List (String × List UInt8))
  refine ⟨?_, (hasked _).mpr (Or.inr ⟨_, rfl, rfl⟩)⟩
  exact (hrun Provider.memory {} (typedRun [.key 'q' false, .key 'a' false]) _ _ 0
    (by decide +kernel) ⟨by decide +kernel, by decide +kernel⟩).2 rfl

/-- Behind another key it is passed over at the next question, and the second source is begun. -/
theorem quit_key_behind_letter :
    let typed : List Input := [.key 'a' false, .key 'q' false]
    let types : Source := ⟨"types", "https://example.org/types"⟩
    let run := (typedRun typed).goneOn Provider.memory Attended.display {} types
    (∃ input ∈ typed, input.quits = true) ∧
      (Dashboard.display.asksToStop (Dashboard.start [] typed)).1 = false ∧
      run.display.dashboard.pending = typed ∧
      passed Provider.memory Attended.display {} (typedRun typed) threeSources =
        threeSources.take 2 := by
  decide +kernel

end DatasetSync.Screen
