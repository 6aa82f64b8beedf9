/-
What the registry says about a source that was loaded.

Recording a source keeps an address that is there already under its name, letter by
letter.  A load that replaces a table takes the name out of the registry first, so
the new address is recorded; and so it is under a name that was not recorded.  What
remains is a name that was recorded while its table was missing, since somebody
dropped the table by hand: then the table is loaded from the new address, and the
registry keeps the old one.
-/
import DatasetSync.Proofs.Ingest

namespace DatasetSync

variable {π : Type}

/-- **The address of a loaded source is recorded**, if its table was replaced or its name was not
recorded.  Otherwise the registry stays as it is. -/
theorem recorded_of_loaded {provider : Provider π} {options : IngestOptions} {db : Database}
    {state : π} {source : Source} {rows columns : Nat} {sources : List Source}
    (hdb : db.Records sources)
    (h : (ingestSource provider options db state source).result = .ok (.loaded rows columns)) :
    ∃ sources', (ingestSource provider options db state source).database.Records sources' ∧
      (db.hasTable source.name = true ∨ source.name ∉ sources.map Source.name →
        sources' = sources.filter (fun other => other.name != source.name) ++ [source]) ∧
      (db.hasTable source.name = false → source.name ∈ sources.map Source.name →
        sources' = sources) := by
  cases ingestSource_comesOut provider options db state source with
  | failed failure hresult _ =>
      rw [hresult] at h
      contradiction
  | skipped _ _ _ hresult _ =>
      rw [hresult] at h
      cases h
  | loaded hloads =>
      rw [hloads.database]
      refine ⟨_, hloads.stages.records rfl hdb, Database.withSource_keptSources, ?_⟩
      intro hmissing hrecorded
      rw [hmissing]
      exact if_pos hrecorded

/-- A database whose only recorded table was dropped by hand. -/
def droppedTypes : Database :=
  { oldTypes with
    tables := oldTypes.tables.filter fun t => t.name = registryTable }

/-- A load under a name that is not recorded. -/
theorem recorded_of_loaded_moves :
    ∃ sources, (ingestSource Provider.memory {} droppedTypes [("moves", "id\n1\n".toUTF8.toList)]
        ⟨"moves", "https://example.org/moves"⟩).database.Records sources ∧
      ⟨"moves", "https://example.org/moves"⟩ ∈ sources := by
  have hrecords : droppedTypes.Records [⟨"types", "https://example.org/old"⟩] :=
    ⟨_, rfl, rfl, rfl⟩
  have hloaded : (ingestSource Provider.memory {} droppedTypes
      [("moves", "id\n1\n".toUTF8.toList)] ⟨"moves", "https://example.org/moves"⟩).result =
        .ok (.loaded 1 1) := by decide +kernel
  obtain ⟨sources, hafter, hnew, -⟩ := recorded_of_loaded hrecords hloaded
  refine ⟨sources, hafter, ?_⟩
  rw [hnew (Or.inr (by decide))]
  decide

/-- The dropped table is loaded again from a new address, and the registry keeps the old one. -/
theorem old_address_kept :
    droppedTypes.registered = .ok [⟨"types", "https://example.org/old"⟩] ∧
      (ingestSource Provider.memory {} droppedTypes [("types", "id\n1\n".toUTF8.toList)]
        ⟨"types", "https://example.org/new"⟩).result = .ok (.loaded 1 1) ∧
      (ingestSource Provider.memory {} droppedTypes [("types", "id\n1\n".toUTF8.toList)]
        ⟨"types", "https://example.org/new"⟩).database.registered =
          .ok [⟨"types", "https://example.org/old"⟩] := by
  decide +kernel

end DatasetSync
