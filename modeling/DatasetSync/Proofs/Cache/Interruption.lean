/-
Stores that break off.

A store writes the copy and then the record of where it came from, and it may break off
in between.  What a sequence of such stores leaves is the copy of the last store of a
name and the record of the last one that was completed: a copy is served exactly for the
address of that record.

So a copy is served for the address that it came from as long as the last store of its
name was completed, or went to the address of the last one that was.  A store that breaks
off over a copy from another address leaves its own bytes under the old address.
-/
import DatasetSync.Proofs.Cache.Contents
import DatasetSync.Proofs.Results

namespace DatasetSync.Cache

open Text.Utf8 (encode)

variable {cache : Cache} {files later : Files} {place : Files.Place} {contents : Contents}

/-- A store, completed or broken off before its second write. -/
structure Attempt where
  name : String
  url : String
  bytes : List UInt8
  completed : Bool
deriving DecidableEq

/-- Stores up to where the attempt comes, if what it writes can be written. -/
def attempt (cache : Cache) (files : Files) (a : Attempt) : Option Files := do
  let files ← (files.write (cache.csvPath a.name) a.bytes).toOption
  if a.completed then (files.write (cache.urlPath a.name) (encode a.url)).toOption
  else some files

/-- Makes attempts one after the other. -/
def attemptAll (cache : Cache) (files : Files) (attempts : List Attempt) : Option Files :=
  attempts.foldlM cache.attempt files

/-- An attempt that is completed is a store that succeeds. -/
theorem attempt_completed_iff {name url : String} {bytes : List UInt8} :
    cache.attempt files ⟨name, url, bytes, true⟩ = some later ↔
      cache.store files name url bytes = (.ok (), later) := by
  unfold attempt store
  cases files.write (cache.csvPath name) bytes with
  | error fault => simp [Except.toOption]
  | ok halfway =>
      cases hrecorded : halfway.write (cache.urlPath name) (encode url) with
      | error fault => simp [Except.toOption, hrecorded]
      | ok stored => simp [Except.toOption, hrecorded]

/-- A store that fails has changed nothing or is an attempt that broke off. -/
theorem files_of_store_error {name url : String} {bytes : List UInt8} {failure : Failure}
    (h : cache.store files name url bytes = (.error failure, later)) :
    later = files ∨ cache.attempt files ⟨name, url, bytes, false⟩ = some later := by
  unfold store at h
  split at h
  · cases h
    exact Or.inl rfl
  · rename_i halfway hcopied
    split at h
    · cases h
      exact Or.inr (by simp [attempt, hcopied, Except.toOption])
    · cases h

/-! ### What attempts leave -/

/-- The last attempt under a name. -/
def lastAttempt? (attempts : List Attempt) (name : String) : Option Attempt :=
  attempts.reverse.find? fun a => a.name = name

/-- The last attempt under a name that was completed. -/
def lastCompleted? (attempts : List Attempt) (name : String) : Option Attempt :=
  attempts.reverse.find? fun a => a.name = name && a.completed

theorem lastAttempt?_append (attempts : List Attempt) (a : Attempt) (name : String) :
    lastAttempt? (attempts ++ [a]) name =
      if name = a.name then some a else lastAttempt? attempts name := by
  simp only [lastAttempt?, find?_reverse_concat, decide_eq_true_eq, eq_comm (a := name)]

theorem lastCompleted?_append (attempts : List Attempt) (a : Attempt) (name : String) :
    lastCompleted? (attempts ++ [a]) name =
      if name = a.name ∧ a.completed = true then some a else lastCompleted? attempts name := by
  simp only [lastCompleted?, find?_reverse_concat, Bool.and_eq_true, decide_eq_true_eq,
    eq_comm (a := name)]

theorem mem_of_lastAttempt? {attempts : List Attempt} {name : String} {last : Attempt}
    (h : lastAttempt? attempts name = some last) : last ∈ attempts ∧ last.name = name :=
  ⟨List.mem_reverse.mp (List.mem_of_find?_eq_some h), by simpa using List.find?_some h⟩

theorem mem_of_lastCompleted? {attempts : List Attempt} {name : String} {last : Attempt}
    (h : lastCompleted? attempts name = some last) : last ∈ attempts :=
  List.mem_reverse.mp (List.mem_of_find?_eq_some h)

namespace Contents

/-- The contents that attempts leave: under each name the copy of the last one, and the record of
the last one that was completed. -/
def left (attempts : List Attempt) : Contents where
  copy name := (lastAttempt? attempts name).map Attempt.bytes
  origin name := (lastCompleted? attempts name).map Attempt.url

theorem left_nil : left [] = empty := rfl

variable {attempts : List Attempt} {a : Attempt}

theorem left_of_broken (h : a.completed = false) :
    left (attempts ++ [a]) = (left attempts).setCopy a.name a.bytes := by
  ext name : 2
  · simp only [left, setCopy, lastAttempt?_append]
    split <;> rfl
  · simp [left, setCopy, lastCompleted?_append, h]

theorem left_of_completed (h : a.completed = true) :
    left (attempts ++ [a]) =
      ((left attempts).setCopy a.name a.bytes).setOrigin a.name a.url := by
  ext name : 2
  · simp only [left, setCopy, setOrigin, lastAttempt?_append]
    split <;> rfl
  · simp only [left, setCopy, setOrigin, lastCompleted?_append, h, and_true]
    split <;> rfl

/-- What attempts leave is served if it is the copy of the last one and goes by the address of the
last one that was completed. -/
theorem served_left_eq_some_iff {name url : String} {bytes : List UInt8}
    (htrimmed : ∀ a ∈ attempts, Text.trim a.url = a.url) :
    (left attempts).served name url = some bytes ↔
      ∃ last completed, lastAttempt? attempts name = some last ∧
        lastCompleted? attempts name = some completed ∧
        last.bytes = bytes ∧ completed.url = url := by
  simp only [served, left]
  cases hcompleted : lastCompleted? attempts name with
  | none => simp
  | some completed =>
      have htrim := htrimmed completed (mem_of_lastCompleted? hcompleted)
      cases lastAttempt? attempts name with
      | none => simp
      | some last => simp [htrim, and_comm]

end Contents

/-- An attempt sets the copy, and the record as well if it is completed. -/
theorem Holds.attempt {attempts : List Attempt} {a : Attempt}
    (h : cache.Holds place files (.left attempts)) (hname : isTableName a.name = true)
    (hmade : cache.attempt files a = some later) :
    cache.Holds place later (.left (attempts ++ [a])) := by
  unfold Cache.attempt at hmade
  obtain ⟨halfway, hcopied, hmade⟩ := Option.bind_eq_some_iff.mp hmade
  have hhalfway := h.write_csvPath hname (toOption_eq_some_iff.mp hcopied)
  split at hmade
  · rename_i hcompleted
    rw [Contents.left_of_completed hcompleted]
    exact hhalfway.write_urlPath hname (toOption_eq_some_iff.mp hmade)
  · rename_i hbroken
    cases hmade
    rw [Contents.left_of_broken (by simpa using hbroken)]
    exact hhalfway

theorem Holds.attemptAll {before attempts : List Attempt}
    (h : cache.Holds place files (.left before))
    (hvalid : ∀ a ∈ attempts, isTableName a.name = true)
    (hmade : cache.attemptAll files attempts = some later) :
    cache.Holds place later (.left (before ++ attempts)) := by
  induction attempts generalizing files before with
  | nil =>
      cases hmade
      rwa [List.append_nil]
  | cons a rest ih =>
      unfold Cache.attemptAll at hmade
      rw [List.foldlM_cons] at hmade
      obtain ⟨next, hfirst, hrest⟩ := Option.bind_eq_some_iff.mp hmade
      have hnext := h.attempt (hvalid a List.mem_cons_self) hfirst
      have hlater := ih hnext (fun b hb => hvalid b (List.mem_cons_of_mem a hb)) hrest
      rwa [List.append_assoc, List.singleton_append] at hlater

theorem IsEmpty.attemptAll {attempts : List Attempt} (hempty : cache.IsEmpty files)
    (hvalid : ∀ a ∈ attempts, isTableName a.name = true)
    (hmade : cache.attemptAll files attempts = some later) :
    ∃ place, cache.Holds place later (.left attempts) := by
  obtain ⟨place, hholds⟩ := hempty.holds
  rw [← Contents.left_nil] at hholds
  exact ⟨place, hholds.attemptAll hvalid hmade⟩

/-! ### What is served -/

/-- The last store under a name went to the address of the last one that was completed, as it did
if it was completed itself. -/
def Labelled (attempts : List Attempt) (name : String) : Prop :=
  ∀ last ∈ lastAttempt? attempts name, ∀ completed ∈ lastCompleted? attempts name,
    last.url = completed.url

instance (attempts : List Attempt) (name : String) : Decidable (Labelled attempts name) :=
  inferInstanceAs (Decidable (∀ _ ∈ lastAttempt? attempts name,
    ∀ _ ∈ lastCompleted? attempts name, _ = _))

/-- **A copy is served exactly for the address of the last store that was completed**, and it is the
copy of the last store.  So where a copy is labelled, it was stored for the address that it is
served for. -/
theorem served_iff_last {attempts : List Attempt} (hempty : cache.IsEmpty files)
    (hvalid : ∀ a ∈ attempts, isTableName a.name = true ∧ Text.trim a.url = a.url)
    (hmade : cache.attemptAll files attempts = some later) {name : String}
    (hname : isTableName name = true) (url : String) :
    ∃ copy, (cache.read later name url).1 = .ok copy ∧
      (∀ bytes, copy = some bytes ↔
        ∃ last completed, lastAttempt? attempts name = some last ∧
          lastCompleted? attempts name = some completed ∧
          last.bytes = bytes ∧ completed.url = url) ∧
      (Labelled attempts name →
        ∀ bytes, copy = some bytes → ∃ completed, ⟨name, url, bytes, completed⟩ ∈ attempts) := by
  obtain ⟨place, hlater⟩ := hempty.attemptAll (fun a ha => (hvalid a ha).1) hmade
  have hserved : ∀ bytes, (Contents.left attempts).served name url = some bytes ↔ _ :=
    fun bytes => Contents.served_left_eq_some_iff fun a ha => (hvalid a ha).2
  refine ⟨_, hlater.read hname url, hserved, ?_⟩
  intro hlabelled bytes hcopy
  obtain ⟨last, completed, hlast, hcompleted, rfl, rfl⟩ := (hserved bytes).mp hcopy
  obtain ⟨hmem, rfl⟩ := mem_of_lastAttempt? hlast
  rw [← hlabelled last hlast completed hcompleted]
  exact ⟨last.completed, hmem⟩

/-- A store, and a later one that breaks off, of the same name. -/
def brokenOff (url : String) : List Attempt :=
  [⟨"types", "https://example.org/types.csv", Text.Utf8.encode "id\n1\n", true⟩,
    ⟨"types", url, Text.Utf8.encode "id\n2\n", false⟩]

/-- The files that the two stores leave. -/
def brokenOffFiles : Files where
  entries := [(["cache"], .directory),
    (["cache", "types.csv"], .file (.bytes (Text.Utf8.encode "id\n2\n"))),
    (["cache", "types.url"], .file (.bytes (Text.Utf8.encode "https://example.org/types.csv")))]

/-- A store that broke off over a copy from the same address: the new copy is served for it. -/
theorem served_iff_last_same_address :
    Cache.IsEmpty ⟨"cache"⟩ emptyCache ∧
    (∀ a ∈ brokenOff "https://example.org/types.csv",
      isTableName a.name = true ∧ Text.trim a.url = a.url) ∧
    Cache.attemptAll ⟨"cache"⟩ emptyCache (brokenOff "https://example.org/types.csv") =
      some brokenOffFiles ∧
    Labelled (brokenOff "https://example.org/types.csv") "types" ∧
    (Cache.read ⟨"cache"⟩ brokenOffFiles "types" "https://example.org/types.csv").1 =
      .ok (some (Text.Utf8.encode "id\n2\n")) ∧
    ∃ completed, ⟨"types", "https://example.org/types.csv", Text.Utf8.encode "id\n2\n",
      completed⟩ ∈ brokenOff "https://example.org/types.csv" := by
  have hvalid : ∀ a ∈ brokenOff "https://example.org/types.csv",
      isTableName a.name = true ∧ Text.trim a.url = a.url := by decide +kernel
  have hmade : Cache.attemptAll ⟨"cache"⟩ emptyCache
      (brokenOff "https://example.org/types.csv") = some brokenOffFiles := by
    decide +kernel
  have hlabelled : Labelled (brokenOff "https://example.org/types.csv") "types" := by
    decide +kernel
  have hname : isTableName "types" = true := by decide +kernel
  obtain ⟨copy, hread, hserved, hstored⟩ := served_iff_last isEmpty_emptyCache hvalid hmade
    hname "https://example.org/types.csv"
  have hcopy : copy = some (Text.Utf8.encode "id\n2\n") :=
    (hserved _).mpr ⟨_, _, by rfl, by rfl, by rfl, by rfl⟩
  exact ⟨isEmpty_emptyCache, hvalid, hmade, hlabelled, hcopy ▸ hread,
    hstored hlabelled _ hcopy⟩

/-- A store that broke off over a copy from another address: its bytes are served for that address,
from which no store had them. -/
theorem interrupted_store_mislabels :
    Cache.IsEmpty ⟨"cache"⟩ emptyCache ∧
    (∀ a ∈ brokenOff "https://mirror.example.org/types.csv",
      isTableName a.name = true ∧ Text.trim a.url = a.url) ∧
    Cache.attemptAll ⟨"cache"⟩ emptyCache (brokenOff "https://mirror.example.org/types.csv") =
      some brokenOffFiles ∧
    (Cache.read ⟨"cache"⟩ brokenOffFiles "types" "https://example.org/types.csv").1 =
      .ok (some (Text.Utf8.encode "id\n2\n")) ∧
    ∀ completed, ⟨"types", "https://example.org/types.csv", Text.Utf8.encode "id\n2\n",
      completed⟩ ∉ brokenOff "https://mirror.example.org/types.csv" := by
  have hvalid : ∀ a ∈ brokenOff "https://mirror.example.org/types.csv",
      isTableName a.name = true ∧ Text.trim a.url = a.url := by decide +kernel
  have hmade : Cache.attemptAll ⟨"cache"⟩ emptyCache
      (brokenOff "https://mirror.example.org/types.csv") = some brokenOffFiles := by
    decide +kernel
  obtain ⟨place, hleft⟩ := isEmpty_emptyCache.attemptAll (fun a ha => (hvalid a ha).1) hmade
  refine ⟨isEmpty_emptyCache, hvalid, hmade, ?_, by decide +kernel⟩
  rw [hleft.read (by decide +kernel)]
  rfl

end DatasetSync.Cache
