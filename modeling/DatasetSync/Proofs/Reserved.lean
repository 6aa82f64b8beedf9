/-
The registry's table as a dataset.

A source whose name is the registry's, in whatever spelling, never becomes a dataset.
Its table is the registry itself: a load in its place drops the registry and cannot
take a name out of it then, and a load beside it needs the name to be free.  So such a
source leaves every database as it is.

What differs is when it is turned away.  The check compares letter by letter, and so
does the validation of a catalog: both turn away the one spelling that the registry has
and let every other pass.  A source with another spelling is looked up, skipped as if it
had been loaded, or asked for and then refused by the database.
-/
import DatasetSync.Proofs.Ingest
import DatasetSync.Proofs.Source.Catalog

namespace DatasetSync

open Text (sameName)

variable {π : Type} {provider : Provider π} {options : IngestOptions} {db : Database} {state : π}
  {source : Source}

/-- The registry's name is that of a table, so every other spelling of it is. -/
theorem isTableName_of_sameName_registry {name : String}
    (h : sameName name registryTable = true) : isTableName name = true := by
  have hregistry : isTableName registryTable = true := by decide +kernel
  rw [isTableName_congr h, hregistry]

/-! ### One step -/

/-- The name that is spelled like the registry is turned away before anything else happens. -/
theorem ingestSource_of_reserved (h : source.name = registryTable) :
    ingestSource provider options db state source =
      ⟨failWith (.reservedName source.name), db, state, []⟩ := by
  have hchecked : checkSource source = .error (.reservedName source.name) := if_pos h
  simp [ingestSource, hchecked]

/-- For a source that is not turned away, the check is made known. -/
theorem events_ne_nil_of_checked (provider : Provider π) (options : IngestOptions) (db : Database)
    (state : π) (h : checkSource source = .ok ()) :
    (ingestSource provider options db state source).events ≠ [] := by
  have hbegins : checkingEvents source <+:
      (ingestSource provider options db state source).events := by
    unfold ingestSource
    rw [h]
    dsimp only
    split
    · exact List.prefix_rfl
    · split
      · simp
      · split <;> simp
  exact List.IsPrefix.ne_nil hbegins (by simp [checkingEvents])

/-- No spelling of the registry's name is loaded. -/
theorem not_loads_of_registry {payload : List UInt8} {d : Dataset}
    {cleared registered : Database} (h : sameName source.name registryTable = true) :
    ¬Loads provider options db state source payload d cleared registered := by
  intro hloads
  have hother : sameName source.name registryTable = false := hloads.stages.not_registry
  rw [h] at hother
  contradiction

/-- A source of the registry's name leaves the database as it is, and is not loaded. -/
theorem ingestSource_of_registry (provider : Provider π) (options : IngestOptions) (db : Database)
    (state : π) (h : sameName source.name registryTable = true) :
    (ingestSource provider options db state source).database = db ∧
      ∀ rows columns, (ingestSource provider options db state source).result ≠
        .ok (.loaded rows columns) := by
  cases ingestSource_comesOut provider options db state source with
  | failed failure hresult hdatabase =>
      exact ⟨hdatabase, fun rows columns hloaded => by rw [hresult] at hloaded; contradiction⟩
  | skipped _ _ _ hresult hdatabase =>
      exact ⟨hdatabase, fun rows columns hloaded => by rw [hresult] at hloaded; cases hloaded⟩
  | loaded hloads => exact absurd hloads (not_loads_of_registry h)

/-! ### Turned away at once -/

/-- **A source of the registry's name is never loaded and leaves every database as it is.**  It is
turned away before it is asked for, and every catalog with it is refused, exactly if its name is
spelled like the registry, letter by letter. -/
theorem turned_away_iff_spelled_alike (h : sameName source.name registryTable = true) :
    (∀ (π : Type) (provider : Provider π) (options : IngestOptions) (db : Database) (state : π),
      (ingestSource provider options db state source).database = db ∧
      (∀ rows columns, (ingestSource provider options db state source).result ≠
        .ok (.loaded rows columns)) ∧
      (ingestSource provider options db state source =
          ⟨failWith (.reservedName source.name), db, state, []⟩ ↔ source.name = registryTable)) ∧
    ((∀ catalog : Catalog, source ∈ catalog → ∃ cause, catalog.validate = .error cause) ↔
      source.name = registryTable) := by
  have hchecked : checkSource source = .ok () ↔ source.name ≠ registryTable := by
    rw [checkSource_eq_ok_iff, isTableName_of_sameName_registry h]
    exact and_iff_left rfl
  refine ⟨fun π provider options db state => ?_, ?_⟩
  · obtain ⟨hdatabase, hnotloaded⟩ := ingestSource_of_registry provider options db state h
    refine ⟨hdatabase, hnotloaded, ?_, ingestSource_of_reserved⟩
    intro hrefused
    by_contra hother
    refine events_ne_nil_of_checked provider options db state (hchecked.mpr hother) ?_
    rw [hrefused]
  · simp only [Catalog.exists_validate_eq_error_iff, ne_eq, Catalog.validate_eq_ok_iff]
    constructor
    · intro hrefused
      by_contra hother
      refine hrefused [source] (by simp) ⟨?_, by simp [Catalog.names]⟩
      simpa using hchecked.mpr hother
    · rintro hname catalog hmem ⟨hall, -⟩
      exact hchecked.mp (hall source hmem) hname

/-- The source that takes the registry's own name. -/
def registrySource : Source := ⟨registryTable, "https://example.org/sources.csv"⟩

theorem registrySource_turned_away :
    sameName registrySource.name registryTable = true ∧
      ingestSource Provider.memory { force := true } Database.fresh [] registrySource =
        ⟨failWith (.reservedName registryTable), Database.fresh, [], []⟩ ∧
      ∃ cause, Catalog.validate [⟨"types", "https://example.org/types.csv"⟩, registrySource] =
        .error cause := by
  have hsame : sameName registrySource.name registryTable = true := by decide +kernel
  obtain ⟨hstep, hvalidate⟩ := turned_away_iff_spelled_alike hsame
  exact ⟨hsame, (hstep _ Provider.memory { force := true } Database.fresh []).2.2.mpr rfl,
    hvalidate.mpr rfl _ (by simp)⟩

/-- The registry's name in capitals passes both checks.  The source is skipped as if it had been
loaded, and a forced run asks for its payload. -/
theorem capital_registry_passes :
    sameName "DATA_SOURCES" registryTable = true ∧
      (ingestSource Provider.memory {} Database.fresh []
        ⟨"DATA_SOURCES", "https://example.org/sources.csv"⟩).result = .ok .skipped ∧
      Event.request ⟨"DATA_SOURCES", "https://example.org/sources.csv"⟩ ∈
        (ingestSource Provider.memory { force := true } Database.fresh []
          ⟨"DATA_SOURCES", "https://example.org/sources.csv"⟩).events ∧
      Catalog.validate [⟨"DATA_SOURCES", "https://example.org/sources.csv"⟩] = .ok () := by
  decide +kernel

end DatasetSync
