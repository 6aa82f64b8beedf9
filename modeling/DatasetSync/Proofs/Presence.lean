/-
Runs in which every source comes out well.

A source comes out well if it is skipped or loaded, and either way its table is there
then.  A table that is there stays there: a step that replaces one puts another in its
place, under a name that is the same identifier.  So whatever a run replaces later on, at
its end there is a table for every source that came out well.  Virtual tables are left
out of this: a drop of one takes other tables along.

A run that nobody stops gives a report without failures exactly if every source comes
out well, whether it is to stop at the first failure or not.
-/
import DatasetSync.Proofs.Growth
import DatasetSync.Proofs.Asked

namespace DatasetSync

variable {π : Type}

/-! ### Tables that stay -/

theorem noVirtualTables_ingestSource {provider : Provider π} {options : IngestOptions}
    {db : Database} {state : π} {source : Source} (h : db.NoVirtualTables) :
    (ingestSource provider options db state source).database.NoVirtualTables := by
  refine database_ingestSource_of_loads (P := Database.NoVirtualTables) h ?_
  intro payload d cleared registered hloads
  exact hloads.stages.noVirtualTables rfl h

/-- A table that is there before a step is there after it.  A step that replaces one must not take
other tables along. -/
theorem hasTable_ingestSource {provider : Provider π} {options : IngestOptions} {db : Database}
    {state : π} {source : Source} {name : String}
    (hordinary : options.force = true → db.NoVirtualTables) (h : db.hasTable name = true) :
    (ingestSource provider options db state source).database.hasTable name = true := by
  cases hforce : options.force with
  | false => exact (grown_ingestSource hforce provider db state source).tables name h
  | true =>
      refine database_ingestSource_of_loads (P := fun db => db.hasTable name = true) h ?_
      intro payload d cleared registered hloads
      rw [hloads.stages.hasTable]
      by_cases hsame : Text.sameName source.name name = true
      · rw [Bool.or_eq_true]
        exact Or.inr hsame
      · have hother : Text.sameName name source.name = false := by
          rw [Text.sameName_comm]
          simpa using hsame
        rw [hloads.stages.clearing.hasTable_of_ne (hordinary hforce) hother, h, Bool.true_or]

namespace Standing

variable {provider : Provider π} {options : IngestOptions} {here : Standing π}
  {sources : List Source}

theorem hasTable_after {name : String}
    (hordinary : options.force = true → here.database.NoVirtualTables)
    (h : here.database.hasTable name = true) :
    (here.after provider options sources).database.hasTable name = true := by
  refine (after_preserves
    (P := fun there => (options.force = true → there.database.NoVirtualTables) ∧
      there.database.hasTable name = true)
    ?_ here ⟨hordinary, h⟩).2
  rintro there source - ⟨hthere, hstays⟩
  exact ⟨fun hforce => noVirtualTables_ingestSource (hthere hforce),
    hasTable_ingestSource hthere hstays⟩

/-- Every source is skipped or loaded. -/
def AllWell (provider : Provider π) (options : IngestOptions) (here : Standing π)
    (sources : List Source) : Prop :=
  ∀ source result, (source, result) ∈ here.outcomes provider options sources →
    ∃ outcome, result = .ok outcome

theorem allWell_nil : AllWell provider options here [] := by
  intro source result hmem
  contradiction

theorem allWell_cons_iff {source : Source} :
    AllWell provider options here (source :: sources) ↔
      (∃ outcome, (here.step provider options source).result = .ok outcome) ∧
        AllWell provider options (here.next provider options source) sources := by
  constructor
  · intro h
    exact ⟨h source _ List.mem_cons_self, fun other result hmem =>
      h other result (List.mem_cons_of_mem _ hmem)⟩
  · rintro ⟨hfirst, hrest⟩ other result hmem
    rcases List.mem_cons.mp hmem with heq | hmem
    · cases heq
      exact hfirst
    · exact hrest other result hmem

/-- Where every source comes out well, there is a table for each of them in the end. -/
theorem AllWell.hasTable (h : AllWell provider options here sources)
    (hordinary : options.force = true → here.database.NoVirtualTables) {source : Source}
    (hmem : source ∈ sources) :
    (here.after provider options sources).database.hasTable source.name = true := by
  induction sources generalizing here with
  | nil => contradiction
  | cons first rest ih =>
      obtain ⟨⟨outcome, hfirst⟩, hrest⟩ := allWell_cons_iff.mp h
      rw [after_cons]
      have hordinary' : options.force = true →
          (here.next provider options first).database.NoVirtualTables :=
        fun hforce => noVirtualTables_ingestSource (hordinary hforce)
      rcases List.mem_cons.mp hmem with rfl | hmem
      · exact hasTable_after hordinary' (hasTable_of_result hfirst).2
      · exact ih hrest hordinary' hmem

/-- What every answer of a provider preserves of its state, a run preserves. -/
theorem provider_after_preserves {P : π → Prop}
    (hfetch : ∀ state source, P state → P (provider.fetch state source).next)
    (h : P here.provider) : P (here.after provider options sources).provider := by
  refine after_preserves (P := fun there => P there.provider) ?_ here h
  intro there source _ hthere
  show P (ingestSource provider options there.database there.provider source).provider
  by_cases hasks : Asks options there.database source
  · rw [provider_ingestSource_of_asks provider there.provider hasks]
    exact hfetch _ _ hthere
  · rw [provider_ingestSource_of_not_asks provider there.provider hasks]
    exact hthere

end Standing

/-! ### Runs that nobody stops -/

section Unwatched

variable {provider : Provider π} {options : IngestOptions} {run : Run π Unit} {report : Report}
  {sources : List Source}

theorem failed_extend_singleton_iff (report : Report) (source : Source)
    (result : Except Failure Outcome) :
    (report.extend [(source, result)]).failed = [] ↔
      report.failed = [] ∧ ∃ outcome, result = .ok outcome := by
  cases result with
  | ok outcome => simp [Report.extend, List.filterMap, failedItem?]
  | error failure => simp [Report.extend, List.filterMap, failedItem?]

/-- **A run gives a report without failures exactly if every source comes out well.** -/
theorem ingestFrom_unwatched_iff :
    (∃ last, (ingestFrom provider Display.none options run report sources).1 = .ok last ∧
        last.failed = []) ↔
      report.failed = [] ∧ run.standing.AllWell provider options sources := by
  induction sources generalizing run report with
  | nil => simp [ingestFrom, Standing.allWell_nil]
  | cons source rest ih =>
      rw [Standing.allWell_cons_iff]
      cases ingestFrom_turn provider Display.none options run report source rest with
      | stops hstop _ _ _ _ => contradiction
      | goesOn next hstanding hends _ =>
          rw [hends, ih, hstanding, failed_extend_singleton_iff, and_assoc]
      | givesUp _ _ failure _ hfailed hends _ =>
          rw [hends, hfailed]
          simp

/-- Where every source comes out well, a run comes to all of them. -/
theorem passed_of_allWell (h : run.standing.AllWell provider options sources) :
    passed provider Display.none options run sources = sources := by
  induction sources generalizing run with
  | nil => rfl
  | cons source rest ih =>
      obtain ⟨⟨outcome, hfirst⟩, hrest⟩ := Standing.allWell_cons_iff.mp h
      cases ingestFrom_turn provider Display.none options run {} source rest with
      | stops hstop _ _ _ _ => contradiction
      | goesOn next hstanding _ hpassed =>
          rw [hpassed, ih (hstanding ▸ hrest)]
      | givesUp _ _ failure _ hfailed _ _ =>
          rw [hfirst] at hfailed
          contradiction

theorem ingestAll_unwatched_iff :
    (∃ last, (ingestAll provider Display.none options run sources).1 = .ok last ∧
        last.isSuccess = true) ↔
      run.standing.AllWell provider options sources := by
  have hsuccess : ∀ last : Report, last.isSuccess = true ↔ last.failed = [] := by
    intro last
    simp [Report.isSuccess]
  simp only [result_ingestAll, hsuccess, ingestFrom_unwatched_iff, true_and]

theorem standing_ingestAll_of_allWell (h : run.standing.AllWell provider options sources) :
    (ingestAll provider Display.none options run sources).2.standing =
      run.standing.after provider options sources := by
  rw [ingestAll_standing, passed_of_allWell h]

end Unwatched

end DatasetSync
