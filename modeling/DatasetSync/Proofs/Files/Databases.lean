/-
The file in which a database is kept.

A database is opened where a file is or where one can be made, and it is kept at the same
path.  In between the files may change, but where their directories stay as they are, the
path still leads to the same place.
-/
import DatasetSync.Files.Databases
import DatasetSync.Proofs.Files.Tree

namespace DatasetSync.Files

variable {files later : Files} {path : String} {db : Database}

/-- A database in a file is opened where a file is or can be. -/
theorem exists_place_of_openForWriting (h : files.openForWriting path = .ok db)
    (hfile : inMemory path = false) :
    ∃ place, files.locate path = .ok place ∧ files.node? place ≠ some .directory := by
  unfold openForWriting at h
  rw [hfile] at h
  dsimp only at h
  split at h
  · contradiction
  · split at h
    · contradiction
    · rename_i place hlocated
      refine ⟨place, hlocated, ?_⟩
      intro hdirectory
      rw [hdirectory] at h
      contradiction

/-- A database is kept in the file that it was opened from. -/
theorem find_keep (h : files.openForWriting path = .ok db) (hfile : inMemory path = false)
    (hsame : files.SameDirectories later) (final : Database) :
    (later.keep path final).find path = .ok (.file (.database final)) := by
  obtain ⟨place, hlocated, hnone⟩ := exists_place_of_openForWriting h hfile
  have hlocated := hsame.locate_eq_ok_iff.mpr hlocated
  have hnone := mt (hsame.directory place).mp hnone
  have hwritten : later.writeContent path (.database final) =
      .ok (later.put place (.file (.database final))) :=
    writeContent_eq_ok_iff.mpr ⟨place, hlocated, hnone, rfl⟩
  rw [keep, hfile, hwritten]
  exact find_writeContent hwritten

end DatasetSync.Files
