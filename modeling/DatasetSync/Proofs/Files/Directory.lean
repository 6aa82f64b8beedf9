/-
The files of one directory.

While a directory stays where it is, what its files hold is read at the places below
it: finding, writing and removing a file by its path is looking up, putting and taking
away at the place of its name.
-/
import DatasetSync.Proofs.Files.Path

namespace DatasetSync.Files

variable {files later : Files} {directory name : String} {place : Place}

/-- The directory of a path is there, at a place of a tree in which no place stands twice. -/
structure Stands (files : Files) (directory : String) (place : Place) : Prop where
  rooted : files.Rooted
  keyed : files.Keyed
  located : files.locate directory = .ok place
  there : files.node? place = some .directory

theorem Stands.of_sameDirectories (h : files.Stands directory place)
    (hsame : files.SameDirectories later) (hkeyed : later.Keyed) :
    later.Stands directory place where
  rooted := by
    have hrooted := h.rooted
    unfold Rooted at hrooted ⊢
    rwa [hsame.root]
  keyed := hkeyed
  located := hsame.locate_eq_ok_iff.mpr h.located
  there := (hsame.directory place).mpr h.there

theorem Stands.locate_join (h : files.Stands directory place) (hname : IsName name) :
    files.locate (Path.join directory name) =
      if Fits directory name then .ok (place ++ [name]) else .error .nameTooLong :=
  Files.locate_join h.rooted hname h.located h.there

/-- What is found at the path of a name in the directory is what stands below its place. -/
theorem Stands.find_join (h : files.Stands directory place) (hname : IsName name) :
    files.find (Path.join directory name) =
      if Fits directory name then
        match files.node? (place ++ [name]) with
        | some node => .ok node
        | none => .error .notFound
      else .error .nameTooLong := by
  unfold find
  rw [h.locate_join hname]
  by_cases hfits : Fits directory name
  · rw [if_pos hfits, if_pos hfits]
    rfl
  · rw [if_neg hfits, if_neg hfits]
    rfl

/-- A name in the directory is that of a file if a file stands below its place, and its path is not
too long. -/
theorem Stands.isFile_join_iff (h : files.Stands directory place) (hname : IsName name) :
    files.isFile (Path.join directory name) = true ↔
      Fits directory name ∧ ∃ content, files.node? (place ++ [name]) = some (.file content) := by
  unfold isFile
  rw [h.find_join hname]
  by_cases hfits : Fits directory name
  · cases hnode : files.node? (place ++ [name]) with
    | none => simp [hfits]
    | some node => cases node <;> simp [hfits]
  · simp [hfits]

/-- A file that could be written in the directory stands there, and nothing else has changed. -/
theorem Stands.write_join (h : files.Stands directory place) (hname : IsName name)
    {bytes : List UInt8} (hwritten : files.write (Path.join directory name) bytes = .ok later) :
    Fits directory name ∧ later.Stands directory place ∧
      ∀ other, later.node? other =
        if other = place ++ [name] then some (.file (.bytes bytes)) else files.node? other := by
  obtain ⟨target, hlocated, hnone, rfl⟩ := writeContent_eq_ok_iff.mp hwritten
  rw [h.locate_join hname] at hlocated
  split at hlocated
  · rename_i hfits
    cases hlocated
    exact ⟨hfits,
      h.of_sameDirectories (sameDirectories_put files (by simp) hnone _) (h.keyed.put _ _),
      node?_put files (by simp) _⟩
  · contradiction

/-- A file of the directory can be removed; then it is gone, and nothing else has changed. -/
theorem Stands.removeFile_join (h : files.Stands directory place) (hname : IsName name)
    (hfits : Fits directory name) {content : Content}
    (hfile : files.node? (place ++ [name]) = some (.file content)) :
    ∃ later, files.removeFile (Path.join directory name) = .ok later ∧
      later.Stands directory place ∧
      ∀ other, later.node? other =
        if other = place ++ [name] then none else files.node? other := by
  have hremoved : files.removeFile (Path.join directory name) =
      .ok (files.without (place ++ [name])) := by
    unfold removeFile
    rw [h.locate_join hname, if_pos hfits, ok_bind, hfile]
    rfl
  have hsame : files.SameDirectories (files.without (place ++ [name])) := by
    refine ⟨rfl, rfl, fun other => ?_⟩
    rw [node?_without files (by simp)]
    split
    · rename_i hother
      rw [hother, hfile]
      simp
    · rfl
  exact ⟨_, hremoved, h.of_sameDirectories hsame (h.keyed.without _),
    node?_without files (by simp)⟩

end DatasetSync.Files
