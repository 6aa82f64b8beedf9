/-
Catalogs that are accepted.

Validation goes over a catalog once and remembers the names that it has seen.  What it
accepts can be said without an order: every source may be loaded under its name, and no
name comes twice.  Names are compared letter by letter here, the reserved one too.  So
what is accepted may still spell one name in two ways, and these are its only names
that are the same identifier.
-/
import DatasetSync.Ingest
import DatasetSync.Proofs.Names
import DatasetSync.Source.Catalog

namespace DatasetSync

open Text (sameName DistinctNames)

/-- A source may be loaded under its name if this can be the name of a table and is not spelled
like the registry's. -/
theorem checkSource_eq_ok_iff {source : Source} :
    checkSource source = .ok () ↔
      source.name ≠ registryTable ∧ isTableName source.name = true := by
  unfold checkSource checkTableName
  by_cases hname : source.name = registryTable
  · simp [hname]
  · cases isTableName source.name <;> simp [hname]

namespace Catalog

variable {catalog : Catalog}

theorem validateAfter_eq_ok_iff {seen : List String} :
    validateAfter seen catalog = .ok () ↔
      (∀ source ∈ catalog, checkSource source = .ok () ∧ source.name ∉ seen) ∧
        catalog.names.Nodup := by
  induction catalog generalizing seen with
  | nil => simp [validateAfter, names]
  | cons source rest ih =>
      have hstep : validateAfter seen (source :: rest) = .ok () ↔
          (checkSource source = .ok () ∧ source.name ∉ seen) ∧
            validateAfter (source.name :: seen) rest = .ok () := by
        rw [checkSource_eq_ok_iff, validateAfter, checkTableName]
        cases isTableName source.name with
        | false => simp
        | true =>
            by_cases hreserved : source.name = registryTable
            · simp [hreserved]
            · by_cases hseen : source.name ∈ seen <;> simp [hreserved, hseen]
      have hnames : names (source :: rest) = source.name :: names rest := rfl
      have hnew : source.name ∉ names rest ↔ ∀ other ∈ rest, other.name ≠ source.name := by
        simp [names]
      rw [hstep, ih, hnames, List.nodup_cons, hnew]
      simp only [List.mem_cons, not_or]
      grind

/-- **A catalog is accepted exactly if each of its sources may be loaded under its name and no name
comes twice.** -/
theorem validate_eq_ok_iff :
    catalog.validate = .ok () ↔
      (∀ source ∈ catalog, checkSource source = .ok ()) ∧ catalog.names.Nodup := by
  simp [validate, validateAfter_eq_ok_iff]

/-- A catalog that is not accepted is refused for a cause. -/
theorem exists_validate_eq_error_iff :
    (∃ cause, catalog.validate = .error cause) ↔ catalog.validate ≠ .ok () := by
  cases catalog.validate <;> simp

/-! ### Spellings -/

/-- None of some names is spelled in two ways. -/
def SpelledOnce (names : List String) : Prop :=
  ∀ a ∈ names, ∀ b ∈ names, sameName a b = true → a = b

instance (names : List String) : Decidable (SpelledOnce names) :=
  inferInstanceAs (Decidable (∀ a ∈ names, ∀ b ∈ names, _ → _))

/-- The names of an accepted catalog are different identifiers exactly if none is spelled in two
ways. -/
theorem distinctNames_iff (h : catalog.validate = .ok ()) :
    DistinctNames catalog.names ↔ SpelledOnce catalog.names := by
  rw [Text.distinctNames_iff]
  exact and_iff_right (validate_eq_ok_iff.mp h).2

/-- So are its names and the registry's. -/
theorem distinctNames_registry_iff (h : catalog.validate = .ok ()) :
    DistinctNames (registryTable :: catalog.names) ↔
      SpelledOnce (registryTable :: catalog.names) := by
  obtain ⟨hchecked, hnodup⟩ := validate_eq_ok_iff.mp h
  have hnew : registryTable ∉ catalog.names := by
    intro hmem
    obtain ⟨source, hsource, hname⟩ := List.mem_map.mp hmem
    exact (checkSource_eq_ok_iff.mp (hchecked source hsource)).1 hname
  rw [Text.distinctNames_iff]
  exact and_iff_right (List.nodup_cons.mpr ⟨hnew, hnodup⟩)

end Catalog
end DatasetSync
