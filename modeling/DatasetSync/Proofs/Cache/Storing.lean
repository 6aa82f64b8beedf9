/-
A copy that was stored, read again.

Storing writes two files of the cache's directory, and reading looks at two.  So a store
changes what is read under its own name and under no other, whatever else there is in
the directory.

The address is recorded as it is, and compared without the blanks around it.  So what
was stored is served for the address without these blanks: for the address that it was
stored with if it has none, and otherwise for another one.
-/
import DatasetSync.Proofs.Cache.Contents
import DatasetSync.Proofs.Files.Siblings
import Mathlib.Control.Monad.Basic

namespace DatasetSync.Cache

open Files (IsName)
open Text.Utf8 (encode)

variable {cache : Cache} {files later : Files} {name other url : String} {bytes : List UInt8}

/-! ### What a store writes -/

theorem store_eq_ok_iff :
    cache.store files name url bytes = (.ok (), later) ↔ ∃ halfway,
      files.write (cache.csvPath name) bytes = .ok halfway ∧
      halfway.write (cache.urlPath name) (encode url) = .ok later := by
  unfold store
  cases files.write (cache.csvPath name) bytes with
  | error fault => simp
  | ok halfway =>
      cases hrecorded : halfway.write (cache.urlPath name) (encode url) with
      | error fault => simp [hrecorded]
      | ok stored => simp [hrecorded]

/-- Writing one of the cache's files leaves the others as they are found. -/
theorem find_write_ending (hname : isTableName name = true) (hother : isTableName other = true)
    {ending ending' : String} (hending : ending ∈ endings) (hending' : ending' ∈ endings)
    (hne : ¬(other = name ∧ ending' = ending))
    (h : files.write (Path.join cache.directory (name ++ ending)) bytes = .ok later) :
    later.find (Path.join cache.directory (other ++ ending')) =
      files.find (Path.join cache.directory (other ++ ending')) :=
  Files.find_write_beside (isName_append hname hending) (isName_append hother hending')
    (fun heq => hne (append_ending_inj heq hending' hending)) h

/-- A store leaves the files of the other names as they are found. -/
theorem find_store_of_ne (hname : isTableName name = true) (hother : isTableName other = true)
    (hne : other ≠ name) (h : cache.store files name url bytes = (.ok (), later))
    {ending : String} (hending : ending ∈ endings) :
    later.find (Path.join cache.directory (other ++ ending)) =
      files.find (Path.join cache.directory (other ++ ending)) := by
  obtain ⟨halfway, hcopied, hrecorded⟩ := store_eq_ok_iff.mp h
  have hnot : ∀ ending' : String, ¬(other = name ∧ ending = ending') := fun _ heq => hne heq.1
  calc later.find (Path.join cache.directory (other ++ ending))
      = halfway.find (Path.join cache.directory (other ++ ending)) :=
        find_write_ending hname hother (by decide) hending (hnot _) hrecorded
    _ = files.find (Path.join cache.directory (other ++ ending)) :=
        find_write_ending hname hother (by decide) hending (hnot _) hcopied

/-! ### What is read -/

/-- What is read under a name depends on what is found at its two paths. -/
theorem read_congr (hcsv : later.find (cache.csvPath name) = files.find (cache.csvPath name))
    (hurl : later.find (cache.urlPath name) = files.find (cache.urlPath name)) (url : String) :
    cache.read later name url = cache.read files name url := by
  have hfile : later.isFile (cache.csvPath name) = files.isFile (cache.csvPath name) := by
    rw [Files.isFile, Files.isFile, hcsv]
  have hbytes : later.read (cache.csvPath name) = files.read (cache.csvPath name) := by
    rw [Files.read, Files.read, hcsv]
  have horigin : later.readText (cache.urlPath name) = files.readText (cache.urlPath name) := by
    rw [Files.readText, Files.readText, Files.read, Files.read, hurl]
  rw [read, read, hfile, hbytes, horigin]

/-- Under the other names, what was read before is read again. -/
theorem read_store_of_ne (hname : isTableName name = true) (hother : isTableName other = true)
    (hne : other ≠ name) (h : cache.store files name url bytes = (.ok (), later))
    (wanted : String) : cache.read later other wanted = cache.read files other wanted :=
  read_congr (find_store_of_ne hname hother hne h (by decide))
    (find_store_of_ne hname hother hne h (by decide)) wanted

/-- What was stored is served for its address without the blanks around it. -/
theorem read_store (hname : isTableName name = true)
    (h : cache.store files name url bytes = (.ok (), later)) (wanted : String) :
    (cache.read later name wanted).1 =
      .ok (if wanted = Text.trim url then some bytes else none) := by
  obtain ⟨halfway, hcopied, hrecorded⟩ := store_eq_ok_iff.mp h
  have hcopy : later.find (cache.csvPath name) = .ok (.file (.bytes bytes)) := by
    rw [csvPath, find_write_ending hname hname (by decide) (by decide) (by simp) hrecorded]
    exact Files.find_writeContent hcopied
  have horigin : later.readText (cache.urlPath name) = .ok url := Files.readText_write hrecorded
  have hfile : later.isFile (cache.csvPath name) = true := by simp [Files.isFile, hcopy]
  have hread : later.read (cache.csvPath name) = .ok bytes := by simp [Files.read, hcopy]
  by_cases hwanted : wanted = Text.trim url
  · simp [read, hfile, horigin, hread, hwanted]
  · simp [read, hfile, horigin, hwanted, Ne.symm hwanted]

/-- **What was stored for an address is served for that address and for no other, exactly if there
are no blanks around it.**  It is served for the address without them, and nothing changes under the
other names. -/
theorem stored_served_iff (hname : isTableName name = true)
    (h : cache.store files name url bytes = (.ok (), later)) :
    (∀ wanted, (cache.read later name wanted).1 =
        .ok (if wanted = Text.trim url then some bytes else none)) ∧
      ((∀ wanted, (cache.read later name wanted).1 =
        .ok (if wanted = url then some bytes else none)) ↔ Text.trim url = url) ∧
      ∀ other, isTableName other = true → other ≠ name → ∀ wanted,
        cache.read later other wanted = cache.read files other wanted := by
  have hserved := read_store hname h
  refine ⟨hserved, ⟨fun hround => ?_, fun htrimmed => ?_⟩,
    fun other hother hne => read_store_of_ne hname hother hne h⟩
  · refine Decidable.byContradiction fun hblanks => ?_
    have hmissed := (hserved url).symm.trans (hround url)
    rw [if_neg (Ne.symm hblanks), if_pos rfl] at hmissed
    cases hmissed
  · rwa [htrimmed] at hserved

/-- The bytes that are stored below. -/
def storedBytes : List UInt8 := encode "id\n1\n"

/-- What a store in an empty cache leaves. -/
def storedFiles (url : String) : Files where
  entries := [(["cache"], .directory), (["cache", "types.csv"], .file (.bytes storedBytes)),
    (["cache", "types.url"], .file (.bytes (encode url)))]

/-- An address without blanks around it: the copy is served for it and for no other, and under
another name there still is none. -/
theorem stored_served_plain :
    isTableName "types" = true ∧
      Cache.store ⟨"cache"⟩ emptyCache "types" "https://example.org/types.csv" storedBytes =
        (.ok (), storedFiles "https://example.org/types.csv") ∧
      (∀ wanted, (Cache.read ⟨"cache"⟩ (storedFiles "https://example.org/types.csv") "types"
        wanted).1 = .ok (if wanted = "https://example.org/types.csv" then some storedBytes
          else none)) ∧
      ∀ wanted, Cache.read ⟨"cache"⟩ (storedFiles "https://example.org/types.csv") "stats" wanted =
        Cache.read ⟨"cache"⟩ emptyCache "stats" wanted := by
  have hname : isTableName "types" = true := by decide +kernel
  have hstored : Cache.store ⟨"cache"⟩ emptyCache "types" "https://example.org/types.csv"
      storedBytes = (.ok (), storedFiles "https://example.org/types.csv") := by decide +kernel
  obtain ⟨-, hround, hothers⟩ := stored_served_iff hname hstored
  exact ⟨hname, hstored, hround.mpr (by decide +kernel),
    hothers "stats" (by decide +kernel) (by decide)⟩

/-- An address with a blank in front: the copy is not served for it, and it is served for another
one. -/
theorem stored_with_blank_missed :
    isTableName "types" = true ∧
      Cache.store ⟨"cache"⟩ emptyCache "types" " https://example.org/types.csv" storedBytes =
        (.ok (), storedFiles " https://example.org/types.csv") ∧
      (Cache.read ⟨"cache"⟩ (storedFiles " https://example.org/types.csv") "types"
        " https://example.org/types.csv").1 = .ok none ∧
      (Cache.read ⟨"cache"⟩ (storedFiles " https://example.org/types.csv") "types"
        "https://example.org/types.csv").1 = .ok (some storedBytes) := by
  decide +kernel

end DatasetSync.Cache
