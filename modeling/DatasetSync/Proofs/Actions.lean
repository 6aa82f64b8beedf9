/-
Parts of commands that end well.

A command is put together from parts, each of which changes the world and gives a result
or fails.  A part ends well with a result and a world; a chain of two does exactly if
both do, the second in the world that the first leaves.  For each part of the commands
that load sources this says when it ends well, and with what: choosing the sources,
opening the cache, making a client and closing the report.
-/
import DatasetSync.Program

namespace DatasetSync

variable {α β : Type} {w later : World}

namespace Action

/-- The part of a command ends well in a world, with a result and another world. -/
def Ends (action : Action α) (w : World) (a : α) (later : World) : Prop :=
  (action.run w).run = (.ok a, later)

theorem run_bind (action : Action α) (next : α → Action β) (w : World) :
    ((action >>= next).run w).run =
      match (action.run w).run with
      | (.ok a, between) => ((next a).run between).run
      | (.error failure, between) => (.error failure, between) := by
  show (ExceptT.bindCont next (action w).1 (action w).2 : Except Failure β × World) = _
  show _ = match action w with
    | (.ok a, between) => _
    | (.error failure, between) => _
  rcases action w with ⟨result, between⟩
  cases result <;> rfl

theorem ends_bind {action : Action α} {next : α → Action β} {b : β} :
    Ends (action >>= next) w b later ↔
      ∃ a between, Ends action w a between ∧ Ends (next a) between b later := by
  unfold Ends
  rw [run_bind]
  rcases (action.run w).run with ⟨result, between⟩
  cases result with
  | error failure => simp
  | ok a =>
      constructor
      · intro h
        exact ⟨a, between, rfl, h⟩
      · rintro ⟨_, _, hfirst, h⟩
        cases hfirst
        exact h

@[simp] theorem ends_pure {a b : α} : Ends (pure a) w b later ↔ b = a ∧ later = w := by
  show (Except.ok a, w) = (.ok b, later) ↔ _
  simp [eq_comm]

@[simp] theorem not_ends_throw {failure : Failure} {a : α} :
    ¬Ends (throw failure : Action α) w a later := by
  intro h
  cases h

@[simp] theorem ends_get {a : World} : Ends (get : Action World) w a later ↔ a = w ∧ later = w := by
  show (Except.ok w, w) = (.ok a, later) ↔ _
  simp [eq_comm]

/-- What is looked up in the world is that of the world. -/
@[simp] theorem ends_get_bind {next : World → Action β} {b : β} :
    Ends ((get : Action World) >>= next) w b later ↔ Ends (next w) w b later := by
  simp [ends_bind, and_assoc]

theorem ends_map {action : Action α} {f : α → β} {b : β} :
    Ends (f <$> action) w b later ↔ ∃ a, Ends action w a later ∧ b = f a := by
  rw [← bind_pure_comp, ends_bind]
  simp only [ends_pure]
  constructor
  · rintro ⟨a, _, h, rfl, rfl⟩
    exact ⟨a, h, rfl⟩
  · rintro ⟨a, h, rfl⟩
    exact ⟨a, later, h, rfl, rfl⟩

@[simp] theorem ends_modify {f : World → World} {a : Unit} :
    Ends (modify f : Action Unit) w a later ↔ later = f w := by
  show (Except.ok (), f w) = (.ok a, later) ↔ _
  simp [eq_comm]

@[simp] theorem ends_files {files : Files} :
    Ends Action.files w files later ↔ files = w.files ∧ later = w := by
  unfold Action.files
  rw [ends_get_bind, ends_pure]

@[simp] theorem ends_files_bind {next : Files → Action β} {b : β} :
    Ends (Action.files >>= next) w b later ↔ Ends (next w.files) w b later := by
  simp [ends_bind, and_assoc]

@[simp] theorem ends_setFiles {files : Files} {a : Unit} :
    Ends (setFiles files) w a later ↔ later = { w with files } := by
  simp [setFiles]

@[simp] theorem ends_log {lines : List LogLine} {a : Unit} :
    Ends (log lines) w a later ↔ later = { w with log := w.log ++ lines } := by
  simp [log]

@[simp] theorem ends_ofResult {result : Except Failure α} {a : α} :
    Ends (ofResult result) w a later ↔ result = .ok a ∧ later = w := by
  cases result with
  | error failure => simp [ofResult]
  | ok b => simp [ofResult, eq_comm]

@[simp] theorem not_ends_fail {cause : Cause} {a : α} : ¬Ends (fail cause) w a later := by
  simp [fail]

end Action

open DatasetSync.Action

/-! ### The parts of loading -/

/-- A choice comes to some sources: its catalog loads, and the selection is resolved in it. -/
def Choice.ComesTo (choice : Choice) (files : Files) (sources : List Source) (line : LogLine) :
    Prop :=
  ∃ catalog, Catalog.load files choice.manifest = .ok catalog ∧
    choice.selection.resolve catalog = .ok (sources, line)

theorem ends_chooseSources {choice : Choice} {sources : List Source} :
    Ends (chooseSources choice) w sources later ↔
      ∃ line, choice.ComesTo w.files sources line ∧ later = { w with log := w.log ++ [line] } := by
  unfold chooseSources Choice.ComesTo
  rw [ends_files_bind]
  simp only [ends_bind, ends_ofResult, ends_log, ends_pure]
  constructor
  · rintro ⟨catalog, _, ⟨hloaded, rfl⟩, ⟨_, line⟩, _, ⟨hresolved, rfl⟩, _, _, rfl, rfl, rfl⟩
    exact ⟨line, ⟨catalog, hloaded, hresolved⟩, rfl⟩
  · rintro ⟨line, ⟨catalog, hloaded, hresolved⟩, rfl⟩
    exact ⟨catalog, _, ⟨hloaded, rfl⟩, (sources, line), _, ⟨hresolved, rfl⟩, (), _, rfl, rfl, rfl⟩

theorem ends_openCache {directory : Option String} {cache : Cache} :
    Ends (openCache directory) w cache later ↔
      ∃ path files, directory.or (defaultCacheDirectory w.environment) = some path ∧
        Cache.prepare w.files path = .ok (cache, files) ∧ later = { w with files } := by
  have hgiven : ∀ path, Ends (openCache (some path)) w cache later ↔
      ∃ files, Cache.prepare w.files path = .ok (cache, files) ∧ later = { w with files } := by
    intro path
    unfold openCache
    dsimp only
    rw [pure_bind, ends_files_bind]
    simp only [ends_bind, ends_ofResult, ends_setFiles, ends_pure]
    constructor
    · rintro ⟨⟨_, files⟩, _, ⟨hprepared, rfl⟩, _, _, rfl, rfl, rfl⟩
      exact ⟨files, hprepared, rfl⟩
    · rintro ⟨files, hprepared, rfl⟩
      exact ⟨(cache, files), _, ⟨hprepared, rfl⟩, (), _, rfl, rfl, rfl⟩
  cases directory with
  | some path => simpa using hgiven path
  | none =>
      unfold openCache at hgiven ⊢
      dsimp only
      rw [ends_get_bind, Option.none_or]
      cases defaultCacheDirectory w.environment with
      | some path => simpa using hgiven path
      | none => simp [ends_bind]

theorem ends_makeClient {a : Unit} :
    Ends makeClient w a later ↔ w.refusals.client = none ∧ later = w := by
  unfold makeClient
  rw [ends_get_bind]
  cases w.refusals.client with
  | none => simp
  | some fault => simp

theorem ends_finish {path : String} {report : Report} {a : Unit} :
    Ends (finish path report) w a later ↔
      report.isSuccess = true ∧ later = { w with log := w.log ++ [finalLine path report] } := by
  unfold finish
  simp only [ends_bind, ends_log]
  cases hsuccess : report.isSuccess with
  | true => simp
  | false => simp

end DatasetSync
