/-
A second run finds its tables there.

After a run that is not forced, a source that was loaded or skipped has a table, and
no later step of such a run takes one away.  So a second run over the same list skips
it, wherever its name stands in the list and whatever provider there is now, and asks
nobody for its payload.  If nothing failed the first time, this is so for the whole
list: then nobody is asked for anything, and the database stays as it is.
-/
import DatasetSync.Proofs.Asked
import DatasetSync.Proofs.Growth

namespace DatasetSync

variable {π π' δ δ' : Type}

/-! ### Names in reports -/

/-- The names of a report whose tables are there after the run. -/
def Report.present (report : Report) : List String :=
  report.loaded.map Prod.fst ++ report.skipped

section Reports

variable {outcomes : List (Source × Except Failure Outcome)} {cancelled : Bool} {name : String}

/-- The names of the sources whose steps came out well are the ones whose tables are there. -/
theorem mem_present_iff :
    name ∈ ((({} : Report).extend outcomes).ended cancelled).present ↔
      ∃ source outcome, (source, .ok outcome) ∈ outcomes ∧ source.name = name := by
  simp only [Report.present, Report.extend, Report.ended, List.nil_append, List.mem_append,
    List.mem_map, List.mem_filterMap, loadedItem?_eq_some_iff, skippedItem?_eq_some_iff]
  constructor
  · rintro (⟨_, ⟨_, hmem, source, rows, columns, rfl, rfl⟩, rfl⟩ | ⟨_, hmem, source, rfl, rfl⟩)
    · exact ⟨source, .loaded rows columns, hmem, rfl⟩
    · exact ⟨source, .skipped, hmem, rfl⟩
  · rintro ⟨source, outcome, hmem, rfl⟩
    cases outcome with
    | skipped => exact Or.inr ⟨_, hmem, source, rfl, rfl⟩
    | loaded rows columns => exact Or.inl ⟨_, ⟨_, hmem, source, rows, columns, rfl, rfl⟩, rfl⟩

theorem failed_eq_nil_iff :
    ((({} : Report).extend outcomes).ended cancelled).failed = [] ↔
      ∀ source result, (source, result) ∈ outcomes → ∃ outcome, result = .ok outcome := by
  simp only [Report.extend, Report.ended, List.nil_append, List.filterMap_eq_nil_iff]
  constructor
  · intro h source result hmem
    cases result with
    | error failure => exact absurd (h _ hmem) (by simp [failedItem?])
    | ok outcome => exact ⟨outcome, rfl⟩
  · rintro h ⟨source, result⟩ hmem
    obtain ⟨outcome, rfl⟩ := h source result hmem
    rfl

/-- Where all sources of some names are skipped, the skipped ones have these names as often as the
list has them, and in its order. -/
theorem filter_skipped (wanted : String → Bool)
    (h : ∀ source result, (source, result) ∈ outcomes → wanted source.name = true →
      result = .ok .skipped) :
    (outcomes.filterMap skippedItem?).filter wanted =
      ((outcomes.map Prod.fst).map Source.name).filter wanted := by
  induction outcomes with
  | nil => rfl
  | cons outcome rest ih =>
      obtain ⟨source, result⟩ := outcome
      have hrest := ih fun source result hmem => h source result (by simp [hmem])
      cases hwanted : wanted source.name with
      | true =>
          cases h source result (by simp) hwanted
          simp [skippedItem?, hwanted, hrest]
      | false =>
          rcases result with failure | _ | ⟨rows, columns⟩
          · simp [List.filterMap_cons, skippedItem?, hwanted, hrest]
          · simp [skippedItem?, hwanted, hrest]
          · simp [List.filterMap_cons, skippedItem?, hwanted, hrest]

end Reports

/-! ### Sources whose tables are there -/

section Settled

variable {options : IngestOptions} {provider : Provider π} {display : Display δ} {run : Run π δ}
  {sources : List Source}

/-- A source whose table is there from the beginning is not asked for. -/
theorem not_mem_asked_of_hasTable (hforce : options.force = false) {source : Source}
    (hthere : run.database.hasTable source.name = true) :
    source ∉ asked provider display options run sources := by
  intro hasked
  obtain ⟨before, -, hasks⟩ := asks_of_mem_asked hasked
  have hstill := (Standing.grown_after hforce provider run.standing before).tables _ hthere
  have := hasks.wanted hstill
  rw [hforce] at this
  contradiction

/-- A run over sources whose tables are all there leaves the database as it is. -/
theorem database_of_hasTable (hforce : options.force = false)
    (hall : ∀ source ∈ sources,
      checkSource source = .ok () ∧ run.database.hasTable source.name = true) :
    (ingestAll provider display options run sources).2.database = run.database := by
  rw [database_ingestAll]
  refine Standing.after_preserves (P := fun here => here.database = run.database) ?_ _ rfl
  intro here source hpassed hhere
  have hsource := (passed_prefixOf provider display options run sources).subset hpassed
  obtain ⟨hchecked, hthere⟩ := hall source hsource
  rw [← hhere] at hthere
  exact (ingestSource_of_hasTable hchecked hthere hforce).2.trans hhere

/-- After a run that came to its end, the names that its report calls present are allowed and have
tables. -/
theorem hasTable_of_mem_present (hforce : options.force = false) (hkeep : options.keepGoing = true)
    {report : Report} (hreport : (ingestAll provider display options run sources).1 = .ok report)
    (hwhole : report.cancelled = false) {source : Source} (h : source.name ∈ report.present) :
    checkSource source = .ok () ∧
      (ingestAll provider display options run sources).2.database.hasTable source.name = true := by
  rw [database_ingestAll, passed_of_uncancelled hkeep hreport hwhole]
  obtain ⟨cancelled, hresult, hall⟩ :=
    ingestAll_of_keepGoing provider display hkeep run sources
  rw [hresult, Except.ok.injEq] at hreport
  subst hreport
  rw [hall hwhole] at h
  obtain ⟨other, outcome, hmem, hname⟩ := mem_present_iff.mp h
  obtain ⟨hchecked, hthere⟩ := Standing.hasTable_of_mem_outcomes hforce hmem
  rw [hname] at hthere
  exact ⟨(checkSource_congr hname).symm.trans hchecked, hthere⟩

/-- If nothing failed in such a run, all names are present. -/
theorem mem_present_of_failed_eq_nil (hkeep : options.keepGoing = true) {report : Report}
    (hreport : (ingestAll provider display options run sources).1 = .ok report)
    (hwhole : report.cancelled = false) (hnone : report.failed = []) {source : Source}
    (h : source ∈ sources) : source.name ∈ report.present := by
  obtain ⟨cancelled, hresult, hall⟩ :=
    ingestAll_of_keepGoing provider display hkeep run sources
  rw [hresult, Except.ok.injEq] at hreport
  subst hreport
  rw [hall hwhole] at hnone ⊢
  have hlisted : (run.standing.outcomes provider options sources).map Prod.fst = sources :=
    run.standing.map_fst_outcomes sources
  rw [← hlisted] at h
  obtain ⟨⟨_, result⟩, hmem, rfl⟩ := List.mem_map.mp h
  obtain ⟨outcome, rfl⟩ := failed_eq_nil_iff.mp hnone _ _ hmem
  exact mem_present_iff.mpr ⟨_, outcome, hmem, rfl⟩

end Settled

/-! ### The second run -/

/-- **A second run skips what the first one loaded or skipped**, and asks nobody for its payload.
If nothing failed the first time, nobody is asked for anything, and the database stays as it is. -/
theorem second_run_skips {provider : Provider π} {display : Display δ} {first : Run π δ}
    {sources : List Source} {report : Report} (provider' : Provider π') (display' : Display δ')
    (second : Run π' δ')
    (hreport : (ingestAll provider display {} first sources).1 = .ok report)
    (hwhole : report.cancelled = false)
    (hsecond : second.database = (ingestAll provider display {} first sources).2.database) :
    ∃ report', (ingestAll provider' display' {} second sources).1 = .ok report' ∧
      (report'.cancelled = false →
        report'.skipped.filter (fun name => name ∈ report.present) =
          (sources.map Source.name).filter fun name => name ∈ report.present) ∧
      (∀ name ∈ report.present,
        name ∉ report'.loaded.map Prod.fst ∧ name ∉ report'.failed.map Prod.fst) ∧
      (∀ source ∈ asked provider' display' {} second sources, source.name ∉ report.present) ∧
      (report.failed = [] →
        asked provider' display' {} second sources = [] ∧
        (ingestAll provider' display' {} second sources).2.database = second.database) := by
  have hsettled : ∀ source : Source, source.name ∈ report.present →
      checkSource source = .ok () ∧ second.database.hasTable source.name = true := by
    intro source hpresent
    rw [hsecond]
    exact hasTable_of_mem_present rfl rfl hreport hwhole hpresent
  have hnotasked : ∀ source ∈ asked provider' display' {} second sources,
      source.name ∉ report.present := by
    intro source hasked hpresent
    exact not_mem_asked_of_hasTable rfl (hsettled source hpresent).2 hasked
  obtain ⟨cancelled, hends, hall⟩ := ingestAll_of_keepGoing provider' display'
    (rfl : ({} : IngestOptions).keepGoing = true) second sources
  have hskipped : ∀ source result,
      (source, result) ∈ second.standing.outcomes provider' {}
        (passed provider' display' {} second sources) →
      source.name ∈ report.present → result = .ok .skipped := by
    intro source result hmem hpresent
    obtain ⟨hchecked, hthere⟩ := hsettled source hpresent
    exact Standing.eq_skipped_of_mem_outcomes rfl hmem hchecked hthere
  refine ⟨_, hends, ?_, ?_, hnotasked, ?_⟩
  · intro huncancelled
    have hnames := filter_skipped (fun name => name ∈ report.present)
      fun source result hmem hpresent => hskipped source result hmem (by simpa using hpresent)
    have hlisted : (second.standing.outcomes provider' {} sources).map Prod.fst = sources :=
      second.standing.map_fst_outcomes sources
    rw [hall huncancelled] at hnames ⊢
    rw [hlisted] at hnames
    simpa [Report.extend, Report.ended] using hnames
  · intro name hpresent
    constructor
    · intro hloaded
      obtain ⟨_, hentry, rfl⟩ := List.mem_map.mp hloaded
      obtain ⟨_, hmem, hsome⟩ := List.mem_filterMap.mp hentry
      obtain ⟨source, rows, columns, rfl, rfl⟩ := loadedItem?_eq_some_iff.mp hsome
      cases hskipped source _ hmem hpresent
    · intro hfailed
      obtain ⟨_, hentry, rfl⟩ := List.mem_map.mp hfailed
      obtain ⟨_, hmem, hsome⟩ := List.mem_filterMap.mp hentry
      obtain ⟨source, failure, rfl, rfl⟩ := failedItem?_eq_some_iff.mp hsome
      cases hskipped source _ hmem hpresent
  · intro hnone
    have hpresent : ∀ source ∈ sources, source.name ∈ report.present :=
      fun source hsource => mem_present_of_failed_eq_nil rfl hreport hwhole hnone hsource
    refine ⟨?_, database_of_hasTable rfl fun source hsource =>
      hsettled source (hpresent source hsource)⟩
    rw [List.eq_nil_iff_forall_not_mem]
    intro source hasked
    obtain ⟨before, hbefore, -⟩ := asks_of_mem_asked hasked
    have hsource : source ∈ sources := hbefore.subset (by simp)
    exact hnotasked source hasked (hpresent source hsource)

/-- One table under two spellings of its name. -/
def twoSpellings : List Source :=
  [⟨"types", "https://example.org/types"⟩, ⟨"Types", "https://example.org/types"⟩]

/-- A run that loads the first and skips the second. -/
def loadingRun : Run (List (String × List UInt8)) Unit :=
  ⟨Database.fresh, [("types", "id\n1\n".toUTF8.toList)], (), []⟩

/-- A second run, for which there are no payloads any more. -/
def emptyHandedRun : Run (List (String × List UInt8)) Unit :=
  ⟨(ingestAll Provider.memory Display.none {} loadingRun twoSpellings).2.database, [], (), []⟩

theorem second_run_needs_nothing :
    (∃ report', (ingestAll Provider.memory Display.none {} emptyHandedRun twoSpellings).1 =
        .ok report' ∧ "types" ∉ report'.failed.map Prod.fst) ∧
      asked Provider.memory Display.none {} emptyHandedRun twoSpellings = [] ∧
      (ingestAll Provider.memory Display.none {} emptyHandedRun twoSpellings).2.database =
        emptyHandedRun.database := by
  have hreport : (ingestAll Provider.memory Display.none {} loadingRun twoSpellings).1 =
      .ok ⟨[("types", 1)], ["Types"], [], false⟩ := by decide +kernel
  obtain ⟨report', hreport', -, hothers, -, hnothing⟩ :=
    second_run_skips Provider.memory Display.none emptyHandedRun hreport rfl rfl
  exact ⟨⟨report', hreport', (hothers "types" (by decide)).2⟩, hnothing rfl⟩

end DatasetSync
