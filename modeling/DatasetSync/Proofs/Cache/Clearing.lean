/-
What clearing leaves of a directory.

The directory of a cache can hold anything: files of other programs, copies without
their records, records without their copies, directories with the names of copies.
Clearing tells the files of the cache by their extensions alone, and whether there is a
file by looking for one at its path.  So it takes away the files with the two
extensions, and leaves everything else as it is.

A path can be too long where the directory is not: then there is a file that cannot be
found at its path.  Nothing can be stored or read under its name, and clearing neither
removes nor counts it.
-/
import DatasetSync.Proofs.Cache.Contents
import DatasetSync.Proofs.Files.WellFormed
import Mathlib.Control.Monad.Basic

namespace DatasetSync

namespace Files

/-- The names of the files directly in a directory. -/
def fileNames (files : Files) (place : Place) : List String :=
  (files.childNames place).filter fun name =>
    match files.node? (place ++ [name]) with
    | some (.file _) => true
    | _ => false

end Files

namespace Cache

open Files (IsName Fits Stands)

variable {cache : Cache} {files later : Files} {place : Files.Place}

/-! ### Trees with caches

A cache is kept in a tree as there can be one, and whatever it does leaves one.
-/

theorem wellFormed_prepare (h : files.WellFormed) {directory : String}
    (hprepared : prepare files directory = .ok (cache, later)) : later.WellFormed := by
  unfold prepare at hprepared
  split at hprepared
  · rename_i hmade
    cases hprepared
    exact h.makeDirectories hmade
  · contradiction

theorem wellFormed_store (h : files.WellFormed) (name url : String) (bytes : List UInt8) :
    (cache.store files name url bytes).2.WellFormed := by
  unfold store
  split
  · exact h
  · rename_i hcopied
    split
    · exact h.writeContent hcopied
    · rename_i hrecorded
      exact (h.writeContent hcopied).writeContent hrecorded

theorem wellFormed_clearNames (h : files.WellFormed) (removed : Nat) (children : List String) :
    (cache.clearNames removed children files).2.WellFormed := by
  induction children generalizing files removed with
  | nil => exact h
  | cons first rest ih =>
      rw [clearNames]
      split
      · split
        · exact h
        · rename_i hremoved
          exact ih (h.removeFile hremoved) _
      · exact ih h removed

theorem wellFormed_clear (h : files.WellFormed) : (cache.clear files).2.WellFormed := by
  unfold clear
  split
  · exact h
  · split
    · exact h
    · exact h
    · exact wellFormed_clearNames h 0 _

/-! ### Clearing -/

/-- Only a directory that is there can be cleared. -/
theorem directory_of_clear {n : Nat} (h : cache.clear files = (.ok n, later)) :
    ∃ place, files.locate cache.directory = .ok place ∧ files.node? place = some .directory := by
  unfold clear at h
  split at h
  · cases h
  · rename_i place hlocated
    split at h
    · cases h
    · cases h
    · rename_i hthere
      exact ⟨place, hlocated, hthere⟩

/-- What is counted are the files with the extension of a copy whose paths are not too long. -/
theorem countP_isCounted (hstands : files.Stands cache.directory place)
    (hnames : ∀ child ∈ files.childNames place, IsName child) :
    (files.childNames place).countP (cache.isCounted files) =
      (files.fileNames place).countP fun name =>
        Path.extension? name = some "csv" ∧ Fits cache.directory name := by
  rw [Files.fileNames, List.countP_filter]
  refine List.countP_congr fun name hname => ?_
  rw [isCounted, Bool.and_eq_true, hstands.isFile_join_iff (hnames name hname)]
  cases hnode : files.node? (place ++ [name]) with
  | none => simp
  | some node => cases node <;> simp [and_comm]

/-- Names that clearing has nothing to take away for are gone through without any change. -/
theorem clearNames_eq_self {children : List String}
    (hstay : ∀ child ∈ children, Path.extension? child = some "csv" ∨
      Path.extension? child = some "url" →
        files.isFile (Path.join cache.directory child) = false) (removed : Nat) :
    cache.clearNames removed children files = (.ok removed, files) := by
  induction children with
  | nil => rfl
  | cons first rest ih =>
      rw [clearNames, if_neg]
      · exact ih fun child hchild => hstay child (List.mem_cons_of_mem first hchild)
      · rintro ⟨hfile, hextension⟩
        rw [hstay first List.mem_cons_self hextension] at hfile
        contradiction

/-- Where no file is left to be taken away, clearing changes nothing. -/
theorem clear_eq_self (hstands : files.Stands cache.directory place)
    (hstay : ∀ child ∈ files.childNames place, Path.extension? child = some "csv" ∨
      Path.extension? child = some "url" →
        files.isFile (Path.join cache.directory child) = false) :
    cache.clear files = (.ok 0, files) := by
  rw [clear, hstands.located]
  dsimp only
  rw [hstands.there]
  exact clearNames_eq_self hstay 0

/-- **Clearing takes away exactly the files of the directory with one of the two extensions**, as
far as their paths are not too long, and counts the copies among them.  Nothing is read from the
cache then, and clearing it once more changes nothing. -/
theorem clear_takes_files (hfiles : files.WellFormed) {n : Nat}
    (h : cache.clear files = (.ok n, later)) :
    ∃ place, files.locate cache.directory = .ok place ∧ files.node? place = some .directory ∧
      n = ((files.fileNames place).countP fun name =>
        Path.extension? name = some "csv" ∧ Fits cache.directory name) ∧
      (∀ there node, later.node? there = some node ↔
        files.node? there = some node ∧
          ¬∃ name content, there = place ++ [name] ∧ node = .file content ∧ cache.Clears name) ∧
      (∀ name url, isTableName name = true → (cache.read later name url).1 = .ok none) ∧
      cache.clear later = (.ok 0, later) := by
  obtain ⟨place, hlocated, hthere⟩ := directory_of_clear h
  have hstands : files.Stands cache.directory place :=
    ⟨hfiles.rooted, hfiles.keyed, hlocated, hthere⟩
  have hnames : ∀ child ∈ files.childNames place, IsName child :=
    fun _ => hfiles.isName_of_mem_childNames
  obtain ⟨left, hcleared, hleftStands, hleft⟩ := clear_spec hstands hnames
  rw [h] at hcleared
  cases hcleared
  have hnode : ∀ there node, later.node? there = some node ↔ files.node? there = some node ∧
      ¬∃ name content, there = place ++ [name] ∧ node = .file content ∧ cache.Clears name := by
    intro there node
    rw [hleft]
    refine and_congr_right fun hold => not_congr ⟨?_, ?_⟩
    · rintro ⟨name, -, content, htaken⟩
      exact ⟨name, content, htaken⟩
    · rintro ⟨name, content, rfl, htaken⟩
      exact ⟨name, Files.mem_childNames.mpr ⟨node, hold⟩, content, rfl, htaken⟩
  have hgone : ∀ child, IsName child → Path.extension? child = some "csv" ∨
      Path.extension? child = some "url" →
        later.isFile (Path.join cache.directory child) = false := by
    intro child hname hextension
    rw [Bool.eq_false_iff, ne_eq, hleftStands.isFile_join_iff hname]
    rintro ⟨hfits, content, hfile⟩
    exact ((hnode _ _).mp hfile).2 ⟨child, content, rfl, rfl, hfits, hextension⟩
  refine ⟨place, hlocated, hthere, countP_isCounted hstands hnames, hnode, ?_, ?_⟩
  · intro name url hname
    have hcsv : later.isFile (cache.csvPath name) = false :=
      hgone _ (isName_append hname (by decide)) (extension?_append hname (by decide))
    simp [read, hcsv]
  · refine clear_eq_self hleftStands fun child hchild => hgone child (hnames child ?_)
    obtain ⟨node, hleftNode⟩ := Files.mem_childNames.mp hchild
    exact Files.mem_childNames.mpr ⟨node, ((hnode _ _).mp hleftNode).1⟩

/-- A cache with a copy and its record, among a file and a directory of somebody else's. -/
def sharedDirectory : Files where
  entries := [(["cache"], .directory), (["cache", "types.csv"], .file (.bytes [0x69, 0x64])),
    (["cache", "notes.txt"], .file (.bytes [])), (["cache", "types.url"], .file (.bytes [0x75])),
    (["cache", "old.csv"], .directory), (["cache", "old.csv", "stats.csv"], .file (.bytes []))]

/-- What clearing leaves of it. -/
def sharedDirectoryCleared : Files where
  entries := [(["cache"], .directory), (["cache", "notes.txt"], .file (.bytes [])),
    (["cache", "old.csv"], .directory), (["cache", "old.csv", "stats.csv"], .file (.bytes []))]

theorem sharedDirectory_cleared :
    sharedDirectory.WellFormed ∧
      Cache.clear ⟨"cache"⟩ sharedDirectory = (.ok 1, sharedDirectoryCleared) ∧
      (∀ url, (Cache.read ⟨"cache"⟩ sharedDirectoryCleared "types" url).1 = .ok none) ∧
      Cache.clear ⟨"cache"⟩ sharedDirectoryCleared = (.ok 0, sharedDirectoryCleared) := by
  have hfiles : sharedDirectory.WellFormed :=
    ⟨Or.inl (by decide), by decide, by decide, by decide +kernel⟩
  have hcleared : Cache.clear ⟨"cache"⟩ sharedDirectory = (.ok 1, sharedDirectoryCleared) := by
    decide +kernel
  obtain ⟨place, -, -, -, -, hread, hagain⟩ := clear_takes_files hfiles hcleared
  exact ⟨hfiles, hcleared, fun url => hread "types" url (by decide +kernel), hagain⟩

/-- The path of a directory, with slashes behind it. -/
def slashedPath (slashes : Nat) : String :=
  "cache" ++ String.ofList (List.replicate slashes '/')

/-- The name of a copy. -/
def longName : String := "pokemon_species_flavor_text_translations_for_every_language.csv"

/-- The directory, with a copy of this name. -/
def longNameDirectory : Files where
  entries := [(["cache"], .directory), (["cache", longName], .file (.bytes [0x69, 0x64]))]

theorem toList_slashedPath (slashes : Nat) :
    (slashedPath slashes).toList = "cache".toList ++ List.replicate slashes '/' := by
  simp [slashedPath]

theorem length_slashedPath (slashes : Nat) :
    (Text.Utf8.encode (slashedPath slashes)).length = slashes + 5 := by
  have hslash : Text.Utf8.charSize '/' = 1 := by decide
  have hname : (Text.Utf8.encode "cache").length = 5 := by decide
  rw [slashedPath, Text.Utf8.encode_append, List.length_append, hname, Text.Utf8.encode,
    String.toList_ofList, Text.Utf8.length_encodeChars_replicate, hslash]
  omega

theorem parts_slashedPath (slashes : Nat) :
    Path.parts (slashedPath slashes) = "cache" :: List.replicate slashes "" := by
  rw [Path.parts, toList_slashedPath, Path.splitOn_append_replicate, List.map_append,
    List.map_replicate]
  rfl

/-- The slashes lead nowhere else, as long as the path is not too long. -/
theorem stands_slashedPath {slashes : Nat} (h : slashes + 5 ≤ Files.maxPathSize) :
    longNameDirectory.Stands (slashedPath slashes) ["cache"] where
  rooted := Or.inl (by decide)
  keyed := by decide
  located := by
    have hbegin : longNameDirectory.begin? (slashedPath slashes) =
        some ([], "cache" :: List.replicate slashes "") := by
      rw [Files.begin?_of_not_belowTop, parts_slashedPath]
      · simp [Path.isAbsolute, toList_slashedPath, longNameDirectory]
      · simp [Files.BelowTop, toList_slashedPath, longNameDirectory]
    have hwalk : longNameDirectory.walk [] ("cache" :: List.replicate slashes "") =
        .ok ["cache"] := by
      cases slashes with
      | zero => decide
      | succ n =>
          have hslashes : longNameDirectory.walk ["cache"] (List.replicate (n + 1) "") =
              .ok ["cache"] := Files.walk_replicate longNameDirectory ["cache"] (n + 1)
          rw [Files.walk_cons_eq_ok_iff, if_neg (by decide), if_neg (by decide),
            if_neg (by simp)]
          exact ⟨by decide, by decide, hslashes⟩
    have hnul : '\x00' ∉ (slashedPath slashes).toList := by simp [toList_slashedPath]
    have hempty : (slashedPath slashes).isEmpty = false := by
      rw [Bool.eq_false_iff, ne_eq, String.isEmpty_iff, ← String.toList_eq_nil_iff,
        toList_slashedPath]
      simp
    rw [Files.locate, if_neg hnul, hempty, length_slashedPath, hbegin]
    simpa [Nat.not_lt.mpr h] using hwalk
  there := by rfl

/-- With the name behind it, the path is longer than a path can be. -/
theorem not_fits_longName {slashes : Nat} (h : Files.maxPathSize < slashes + 69) :
    ¬Fits (slashedPath (slashes + 1)) longName := by
  have hjoined : Path.join (slashedPath (slashes + 1)) longName =
      slashedPath (slashes + 1) ++ longName := by
    have hends : (slashedPath (slashes + 1)).toList.getLast? = some '/' := by
      rw [toList_slashedPath, List.replicate_succ', ← List.append_assoc, List.getLast?_concat]
    rw [Path.join, Files.isAbsolute_eq_false (by decide +kernel), hends]
    simp
  have hname : (Text.Utf8.encode longName).length = 63 := by decide +kernel
  rw [Fits, hjoined, Text.Utf8.encode_append, List.length_append, length_slashedPath, hname]
  omega

/-- The file with the extension of a copy is left and not counted. -/
theorem longName_left :
    longNameDirectory.WellFormed ∧
      (∃ place, longNameDirectory.locate (slashedPath 4030) = .ok place ∧
        longName ∈ longNameDirectory.fileNames place) ∧
      Path.extension? longName = some "csv" ∧
      Cache.clear ⟨slashedPath 4030⟩ longNameDirectory = (.ok 0, longNameDirectory) := by
  have hfiles : longNameDirectory.WellFormed :=
    ⟨Or.inl (by decide), by decide, by decide, by decide +kernel⟩
  have hstands : longNameDirectory.Stands (slashedPath 4030) ["cache"] :=
    stands_slashedPath (by decide)
  have hfits : ¬Fits (slashedPath 4030) longName := not_fits_longName (by decide)
  refine ⟨hfiles, ⟨["cache"], hstands.located, by decide +kernel⟩, by decide +kernel,
    clear_eq_self hstands fun child hchild _ => ?_⟩
  have hchild : child = longName := by simpa [Files.childNames, longNameDirectory] using hchild
  rw [hchild, Bool.eq_false_iff, ne_eq, hstands.isFile_join_iff (by decide +kernel)]
  exact fun hfile => hfits hfile.1

end Cache
end DatasetSync
