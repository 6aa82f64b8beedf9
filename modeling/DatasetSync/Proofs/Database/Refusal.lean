/-
What a load can fail of.

Apart from the statements that the database refuses there is one thing that ends a load
in the middle of its work: a row with fewer cells than the schema has columns.  Where all
rows are wide enough, every failure of a load is one of the database.
-/
import DatasetSync.Proofs.Database.Load

namespace DatasetSync.Database

/-! ### Statements -/

/-- A run of statements ends with the failure of one of them. -/
theorem exists_of_run_eq_error {tx tx' : Transaction} {changes : List Change} {failure : Failure}
    (h : tx.run changes = (.error failure, tx')) :
    ∃ change ∈ changes, ∃ db, change db = .error failure := by
  induction changes generalizing tx with
  | nil => simp [Transaction.run] at h
  | cons change rest ih =>
      rw [Transaction.run] at h
      split at h
      · rename_i hchange
        cases h
        exact ⟨change, by simp, _, hchange⟩
      · obtain ⟨later, hlater, hfailed⟩ := ih h
        exact ⟨later, by simp [hlater], hfailed⟩

theorem register_eq_error {db : Database} {source : Source} {failure : Failure}
    (h : db.register source = .error failure) : ∃ fault, failure.cause = .database fault := by
  obtain ⟨fault, -, rfl⟩ := mapError_eq_error.mp h
  exact ⟨fault, rfl⟩

theorem unregister_eq_error {db : Database} {name : String} {failure : Failure}
    (h : db.unregister name = .error failure) : ∃ fault, failure.cause = .database fault := by
  obtain ⟨fault, -, rfl⟩ := mapError_eq_error.mp h
  exact ⟨fault, rfl⟩

/-- The statements before the rows are refused by the database only. -/
theorem preparations_eq_error {source : Source} {s : Schema} {replace : Bool} {change : Change}
    {db : Database} {failure : Failure} (hchange : change ∈ preparations source s replace)
    (h : change db = .error failure) : ∃ fault, failure.cause = .database fault := by
  rcases List.mem_append.mp hchange with hclearing | hloading
  · split at hclearing
    · rcases List.mem_cons.mp hclearing with rfl | hclearing
      · obtain ⟨fault, -, rfl⟩ := mapError_eq_error.mp h
        exact ⟨fault, rfl⟩
      · rw [List.mem_singleton] at hclearing
        subst hclearing
        exact unregister_eq_error h
    · contradiction
  · rcases List.mem_cons.mp hloading with rfl | hloading
    · exact register_eq_error h
    · rw [List.mem_singleton] at hloading
      subst hloading
      obtain ⟨fault, -, rfl⟩ := mapError_eq_error.mp h
      exact ⟨fault, rfl⟩

/-! ### Rows -/

section Rows

variable {s : Schema} {failure : Failure}

theorem insertRow_eq_error {t : Table} {row : List (Option String)}
    (hwide : s.columns.length ≤ row.length) (h : insertRow s t row = .error failure) :
    ∃ fault, failure.cause = .database fault := by
  unfold insertRow at h
  rw [rowValues, if_neg (by omega), ok_bind, mapError_eq_error] at h
  obtain ⟨fault, -, rfl⟩ := h
  exact ⟨fault, rfl⟩

theorem insertRows_eq_error {t t' : Table} {rows : List (List (Option String))}
    (hwide : ∀ row ∈ rows, s.columns.length ≤ row.length)
    (h : insertRows s t rows = (.error failure, t')) :
    ∃ fault, failure.cause = .database fault := by
  induction rows generalizing t with
  | nil => simp [insertRows] at h
  | cons row rest ih =>
      rw [insertRows] at h
      split at h
      · rename_i hrow
        cases h
        exact insertRow_eq_error (hwide row (by simp)) hrow
      · exact ih (fun other hother => hwide other (by simp [hother])) h

theorem insertBatches_eq_error {total done : Nat} {t : Table}
    {batches : List (List (List (Option String)))}
    (hwide : ∀ batch ∈ batches, ∀ row ∈ batch, s.columns.length ≤ row.length)
    (h : (insertBatches s total done t batches).1 = .error failure) :
    ∃ fault, failure.cause = .database fault := by
  induction batches generalizing t done with
  | nil => simp [insertBatches] at h
  | cons batch rest ih =>
      rw [insertBatches] at h
      split at h
      · rename_i hbatch
        cases h
        exact insertRows_eq_error (hwide batch (by simp)) hbatch
      · exact ih (fun other hother => hwide other (by simp [hother])) h

end Rows

/-! ### Loads -/

/-- **A load of rows that are wide enough fails in the database only.** -/
theorem load_eq_error {db : Database} {source : Source} {s : Schema} {d : Dataset}
    {replace : Bool} {failure : Failure} (hwide : ∀ row ∈ d.rows, s.columns.length ≤ row.length)
    (h : (db.load source s d replace).result = .error failure) :
    ∃ fault, failure.cause = .database fault := by
  have hwork : ((Transaction.start db).work source s d replace).1 = .error failure := h
  unfold Transaction.work at hwork
  split at hwork
  · rename_i hrun
    cases hwork
    obtain ⟨change, hchange, current, hfailed⟩ := exists_of_run_eq_error hrun
    exact preparations_eq_error hchange hfailed
  · unfold Transaction.fill at hwork
    split at hwork
    · cases hwork
      exact ⟨_, rfl⟩
    · refine insertBatches_eq_error (fun batch hbatch row hrow => hwide row ?_) hwork
      rw [← flatten_batches d.rows]
      exact List.mem_flatten_of_mem hbatch hrow

end DatasetSync.Database
