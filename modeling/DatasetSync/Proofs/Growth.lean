/-
Runs that are not forced only add to a database.

A step that is not forced leaves the database as it is or puts one table behind the
others, under a name that was free, and records its source.  So a table that is
there stays there, and a source that came out well once is skipped from then on.

A source that failed is harmless too.  What refuses a load is its payload, the
registry, a view or an index, or its columns; none of these goes away when tables
are added.  So a step that was taken once, and is taken again after others with the
same payload, finds nothing left to do: it skips, or it fails again.  The exception is
a registry whose rows refer to one another: it may refuse a row until another is there.
-/
import DatasetSync.Proofs.Runs

namespace DatasetSync

variable {π : Type}

namespace Database

/-! ### Databases that grew -/

/-- The second database is the first one after some tables were added. -/
structure Grown (db later : Database) : Prop where
  tables : ∀ name, db.hasTable name = true → later.hasTable name = true
  views : later.views = db.views
  indexes : later.indexes = db.indexes
  /-- A registry that can be written was there from the beginning. -/
  writable : (∃ t, later.writableRegistry = .ok t) → ∃ t, db.writableRegistry = .ok t

theorem Grown.refl (db : Database) : db.Grown db :=
  ⟨fun _ h => h, rfl, rfl, fun h => h⟩

theorem Grown.trans {first second third : Database} (h : first.Grown second)
    (h' : second.Grown third) : first.Grown third where
  tables name hname := h'.tables name (h.tables name hname)
  views := h'.views.trans h.views
  indexes := h'.indexes.trans h.indexes
  writable hthird := h.writable (h'.writable hthird)

/-! ### Loads that replace nothing -/

section Stages

variable {db later cleared registered : Database} {source : Source} {s : Schema}

/-- A load that replaces nothing only adds. -/
theorem Stages.grown (h : db.Stages source s false cleared registered) (t : Table) :
    db.Grown (registered.withTable t) := by
  have hhas := fun name => h.hasTable (t := t) name
  obtain ⟨hclearing, hrecording, -⟩ := h
  cases hclearing
  obtain ⟨_, _, hrewritten, -⟩ := register_eq_ok hrecording
  obtain ⟨registry, _, hwritable, -⟩ := register_eq_ok_iff.mp hrecording
  refine ⟨?_, hrewritten.views, hrewritten.indexes, fun _ => ⟨registry, hwritable⟩⟩
  intro name hname
  rw [hhas, hname, Bool.true_or]

end Stages

end Database

/-! ### Steps that are not forced -/

section Steps

variable {provider : Provider π} {options : IngestOptions} {db : Database} {state : π}
  {source : Source}

/-- Without force, what is loaded had no table. -/
theorem Loads.missing {payload : List UInt8} {d : Dataset} {cleared registered : Database}
    (h : Loads provider options db state source payload d cleared registered)
    (hforce : options.force = false) : db.hasTable source.name = false := by
  rw [Bool.eq_false_iff]
  intro hthere
  have := h.allowed hthere
  rw [hforce] at this
  contradiction

/-- A source that is not refused has a table then, under a name that is allowed. -/
theorem hasTable_of_result {outcome : Outcome}
    (h : (ingestSource provider options db state source).result = .ok outcome) :
    checkSource source = .ok () ∧
      (ingestSource provider options db state source).database.hasTable source.name = true := by
  cases ingestSource_comesOut provider options db state source with
  | failed failure hresult _ =>
      rw [hresult] at h
      contradiction
  | skipped hchecked hthere _ _ hdatabase =>
      rw [hdatabase]
      exact ⟨hchecked, hthere⟩
  | loaded hloads =>
      rw [hloads.database, hloads.stages.hasTable, Bool.or_eq_true]
      exact ⟨hloads.checked, Or.inr (Text.sameName_self _)⟩

theorem grown_ingestSource (hforce : options.force = false) (provider : Provider π)
    (db : Database) (state : π) (source : Source) :
    db.Grown (ingestSource provider options db state source).database := by
  refine database_ingestSource_of_loads (P := db.Grown) (.refl db) ?_
  intro payload d cleared registered hloads
  have hstages := hloads.stages
  rw [hloads.missing hforce] at hstages
  exact hstages.grown _

end Steps

/-! ### Steps one after the other -/

namespace Standing

variable {provider : Provider π} {options : IngestOptions}

theorem grown_after (hforce : options.force = false) (provider : Provider π) (here : Standing π)
    (sources : List Source) :
    here.database.Grown (here.after provider options sources).database := by
  refine after_preserves (P := fun there => here.database.Grown there.database) ?_ here (.refl _)
  intro there source _ h
  exact h.trans (grown_ingestSource hforce provider there.database there.provider source)

/-- Where the step for a source comes out well, its table is there in the end. -/
theorem hasTable_of_mem_outcomes (hforce : options.force = false) {here : Standing π}
    {sources : List Source} {source : Source} {outcome : Outcome}
    (h : (source, .ok outcome) ∈ here.outcomes provider options sources) :
    checkSource source = .ok () ∧
      (here.after provider options sources).database.hasTable source.name = true := by
  obtain ⟨before, rest, rfl, hresult⟩ := exists_of_mem_outcomes h
  obtain ⟨hchecked, hthere⟩ := hasTable_of_result hresult.symm
  refine ⟨hchecked, ?_⟩
  rw [after_append]
  exact (grown_after hforce provider _ rest).tables _ hthere

/-- A source whose table is there from the beginning is skipped. -/
theorem eq_skipped_of_mem_outcomes (hforce : options.force = false) {here : Standing π}
    {sources : List Source} {source : Source} {result : Except Failure Outcome}
    (h : (source, result) ∈ here.outcomes provider options sources)
    (hchecked : checkSource source = .ok ()) (hthere : here.database.hasTable source.name = true) :
    result = .ok .skipped := by
  obtain ⟨before, rest, -, rfl⟩ := exists_of_mem_outcomes h
  have hstill := (grown_after hforce provider here before).tables _ hthere
  exact (ingestSource_of_hasTable hchecked hstill hforce).1

end Standing

end DatasetSync
