/-
What a cache serves over a history of fetches.

A history is any sequence of fetches, forced or not, and of clearings, over a network
that may answer anything, as long as every file of the cache can be written.  With it
goes the list of the downloads since the cache was last cleared: each body that a server
sent whole, with the source that it was asked for.

The contents of the cache are those of the latest download of each name.  A fetch that
downloads puts itself at the end of the list, a fetch that fails or is served a copy
leaves the list and the files alone, and clearing empties both.
-/
import DatasetSync.Proofs.Cache.Contents
import DatasetSync.Proofs.Network.Recording

namespace DatasetSync.Cache

variable {ν : Type} {network : Network ν} {cache : Cache} {web start : Web ν}
variable {place : Files.Place} {name : String}

/-! ### Histories -/

/-- A body that a source was fetched with. -/
structure Download where
  source : Source
  body : List UInt8
deriving DecidableEq, Repr

/-- The downloads of a fetch. -/
def downloadsOf (network : Network ν) (cache : Cache) (force : Bool) (web : Web ν)
    (source : Source) : List Download :=
  (Web.bodies network (some cache) force web source).map (Download.mk source)

/-- No file of the cache could not be written. -/
def Wrote (fetched : Fetch (Web ν)) : Prop :=
  ∀ path fault, fetched.result ≠ .error ⟨[.writingCacheFile path], .files fault⟩

/-- What was going on when a fetch failed. -/
def during (fetched : Fetch (Web ν)) : List Activity :=
  match fetched.result with
  | .ok _ => []
  | .error failure => failure.during

theorem wrote_of_during {fetched : Fetch (Web ν)}
    (h : ∀ path, during fetched ≠ [.writingCacheFile path]) : Wrote fetched := by
  intro path fault hfailed
  refine h path ?_
  rw [during, hfailed]

/-- What fetches and clearings leave, and the downloads since the last clearing. -/
inductive History (network : Network ν) (cache : Cache) (start : Web ν) :
    Web ν → List Download → Prop
  | start : History network cache start start []
  | fetch (force : Bool) (source : Source) {web : Web ν} {downloads : List Download}
      (before : History network cache start web downloads)
      (named : isTableName source.name = true)
      (wrote : Wrote (Web.fetch network (some cache) force web source)) :
      History network cache start (Web.fetch network (some cache) force web source).next
        (downloads ++ downloadsOf network cache force web source)
  | clear {web : Web ν} {downloads : List Download}
      (before : History network cache start web downloads) :
      History network cache start { web with files := (cache.clear web.files).2 } []

/-- The latest download under a name. -/
def latest? (downloads : List Download) (name : String) : Option Download :=
  downloads.reverse.find? fun download => download.source.name = name

theorem latest?_append_of_ne (downloads : List Download) {more : List Download}
    (h : ∀ download ∈ more, download.source.name ≠ name) :
    latest? (downloads ++ more) name = latest? downloads name := by
  have hnone : more.reverse.find? (fun download => download.source.name = name) = none := by
    simpa using h
  rw [latest?, List.reverse_append, List.find?_append, hnone, Option.none_or, latest?]

/-! ### The contents -/

namespace Contents

/-- The contents that downloads leave: the latest of each name. -/
def downloaded (downloads : List Download) : Contents where
  copy name := (latest? downloads name).map Download.body
  origin name := (latest? downloads name).map fun download => download.source.url

theorem downloaded_nil : downloaded [] = empty := rfl

theorem downloaded_append (downloads : List Download) (download : Download) :
    downloaded (downloads ++ [download]) =
      ((downloaded downloads).setCopy download.source.name download.body).setOrigin
        download.source.name download.source.url := by
  have hlatest : ∀ name, latest? (downloads ++ [download]) name =
      if name = download.source.name then some download else latest? downloads name := by
    intro name
    simp only [latest?, find?_reverse_concat, decide_eq_true_eq,
      eq_comm (a := name)]
  ext name : 2
  · simp only [downloaded, setCopy, setOrigin, hlatest]
    split <;> rfl
  · simp only [downloaded, setCopy, setOrigin, hlatest]
    split <;> rfl

/-- What downloads leave is served for the address of the latest of the name. -/
theorem served_downloaded_eq_some_iff {downloads : List Download} {url : String}
    {bytes : List UInt8} :
    (downloaded downloads).served name url = some bytes ↔
      ∃ download, latest? downloads name = some download ∧ download.body = bytes ∧
        Text.trim download.source.url = url := by
  simp only [served, downloaded]
  cases latest? downloads name with
  | none => simp
  | some download => simp [and_comm]

end Contents

/-- What stands under the name of a source in the cache: its copy and the record of where it came
from. -/
def entry (cache : Cache) (files : Files) (name : String) :
    Except Files.Fault Files.Node × Except Files.Fault Files.Node :=
  (files.find (cache.csvPath name), files.find (cache.urlPath name))

/-- Under a name stands what the contents have there. -/
theorem Holds.entry_congr {files later : Files} {contents after : Contents}
    (h : cache.Holds place files contents) (hafter : cache.Holds place later after)
    (hname : isTableName name = true) (hcopy : after.copy name = contents.copy name)
    (horigin : after.origin name = contents.origin name) :
    cache.entry later name = cache.entry files name := by
  have hfind : ∀ ending ∈ endings, after.held name ending = contents.held name ending →
      later.find (Path.join cache.directory (name ++ ending)) =
        files.find (Path.join cache.directory (name ++ ending)) := by
    intro ending hending hsame
    cases hheld : contents.held name ending with
    | none =>
        rw [h.find_of_not_held hname hending hheld,
          hafter.find_of_not_held hname hending (hsame.trans hheld)]
    | some bytes =>
        rw [h.find_of_held hname hending hheld,
          hafter.find_of_held hname hending (hsame.trans hheld)]
  exact Prod.ext (hfind ".csv" (by decide) (by simp [hcopy]))
    (hfind ".url" (by decide) (by simp [horigin]))

/-! ### One fetch -/

theorem store_eq_error {files later : Files} {url : String} {bytes : List UInt8}
    {failure : Failure} (h : cache.store files name url bytes = (.error failure, later)) :
    ∃ path fault, failure = ⟨[.writingCacheFile path], .files fault⟩ := by
  unfold store at h
  split at h
  · cases h
    exact ⟨_, _, rfl⟩
  · split at h
    · cases h
      exact ⟨_, _, rfl⟩
    · cases h

/-- **A fetch leaves the contents of the downloads before it and its own**, and a fetch that fails
leaves the files. -/
theorem Holds.fetch {downloads : List Download} {force : Bool} {source : Source}
    (h : cache.Holds place web.files (.downloaded downloads))
    (hname : isTableName source.name = true)
    (hwrote : Wrote (Web.fetch network (some cache) force web source)) :
    cache.Holds place (Web.fetch network (some cache) force web source).next.files
        (.downloaded (downloads ++ downloadsOf network cache force web source)) ∧
      ∀ failure, (Web.fetch network (some cache) force web source).result = .error failure →
        (Web.fetch network (some cache) force web source).next.files = web.files := by
  have hkept : Web.bodies network (some cache) force web source = [] →
      (Web.fetch network (some cache) force web source).next.files = web.files →
      cache.Holds place (Web.fetch network (some cache) force web source).next.files
        (.downloaded (downloads ++ downloadsOf network cache force web source)) := by
    intro hbodies hfiles
    rw [downloadsOf, hbodies, hfiles]
    simpa using h
  cases Web.fetched network cache force web source with
  | served bytes _ _ hresult hfiles hsilent =>
      exact ⟨hkept (Web.bodies_of_silent hsilent) hfiles, fun _ _ => hfiles⟩
  | unreadable failure _ _ hresult hfiles hsilent =>
      exact ⟨hkept (Web.bodies_of_silent hsilent) hfiles, fun _ _ => hfiles⟩
  | failed failure _ hresult hfiles hbodies => exact ⟨hkept hbodies hfiles, fun _ _ => hfiles⟩
  | stored bytes _ hstored hresult hbodies =>
      refine ⟨?_, fun failure hfailed => ?_⟩
      · rw [downloadsOf, hbodies, List.map_singleton, Contents.downloaded_append]
        exact h.store hname hstored
      · rw [hresult] at hfailed
        contradiction
  | lost bytes failure _ hstored hresult hbodies =>
      obtain ⟨path, fault, rfl⟩ := store_eq_error hstored
      exact absurd hresult (hwrote path fault)

/-- A copy is served without a request exactly if the contents have it for the address. -/
theorem Holds.served_iff {contents : Contents} {source : Source} {bytes : List UInt8}
    (h : cache.Holds place web.files contents) (hname : isTableName source.name = true) :
    ((Web.fetch network (some cache) false web source).result = .ok bytes ∧
        Web.exchanges network (some cache) false web source = []) ↔
      contents.served source.name source.url = some bytes := by
  have hread := h.read hname source.url
  constructor
  · rintro ⟨hresult, hsilent⟩
    have hnone := Web.bodies_of_silent hsilent
    cases Web.fetched network cache false web source with
    | served bytes' _ hcopy hserved _ _ =>
        rw [hserved] at hresult
        cases hresult
        rw [hread] at hcopy
        exact Except.ok.inj hcopy
    | unreadable failure _ _ hfailed _ _ =>
        rw [hfailed] at hresult
        cases hresult
    | failed failure _ hfailed _ _ =>
        rw [hfailed] at hresult
        cases hresult
    | stored bytes' _ _ _ hbodies =>
        rw [hbodies] at hnone
        cases hnone
    | lost bytes' failure _ _ _ hbodies =>
        rw [hbodies] at hnone
        cases hnone
  · intro hserved
    rw [hserved] at hread
    have hmissing : ¬(false = false →
        (cache.read web.files source.name source.url).1 = .ok none) := by
      rw [hread]
      simp
    cases Web.fetched network cache false web source with
    | served bytes' _ hcopy hresult _ hsilent =>
        rw [hread] at hcopy
        cases hcopy
        exact ⟨hresult, hsilent⟩
    | unreadable failure _ hfailed _ _ _ =>
        rw [hread] at hfailed
        contradiction
    | failed failure hnone _ _ _ => exact absurd hnone hmissing
    | stored bytes' hnone _ _ _ => exact absurd hnone hmissing
    | lost bytes' failure hnone _ _ _ => exact absurd hnone hmissing

/-! ### Histories of fetches -/

theorem History.holds {downloads : List Download}
    (h : History network cache start web downloads)
    (hstart : cache.Holds place start.files .empty) :
    cache.Holds place web.files (.downloaded downloads) := by
  induction h with
  | start =>
      rw [Contents.downloaded_nil]
      exact hstart
  | fetch force source _ hname hwrote ih => exact (ih.fetch hname hwrote).1
  | clear _ ih =>
      obtain ⟨count, later, hcleared, hlater⟩ := ih.clear
      rw [hcleared]
      exact hlater

/-- **A copy is served without a request exactly if it is the latest download of its name, and for
the address of that download.**  A fetch that fails leaves the files as they are, and a fetch
leaves what the cache has under every other name. -/
theorem served_iff_latest {downloads : List Download}
    (hempty : cache.IsEmpty start.files) (h : History network cache start web downloads)
    {source : Source} (hname : isTableName source.name = true) :
    (∀ bytes,
      ((Web.fetch network (some cache) false web source).result = .ok bytes ∧
          Web.exchanges network (some cache) false web source = []) ↔
        ∃ download, latest? downloads source.name = some download ∧ download.body = bytes ∧
          Text.trim download.source.url = source.url) ∧
    ∀ force, Wrote (Web.fetch network (some cache) force web source) →
      (∀ failure, (Web.fetch network (some cache) force web source).result = .error failure →
        (Web.fetch network (some cache) force web source).next.files = web.files) ∧
      ∀ other, isTableName other = true → other ≠ source.name →
        cache.entry (Web.fetch network (some cache) force web source).next.files other =
          cache.entry web.files other := by
  obtain ⟨place, hstart⟩ := hempty.holds
  have hholds := h.holds hstart
  refine ⟨fun bytes => ?_, fun force hwrote => ?_⟩
  · rw [hholds.served_iff hname, Contents.served_downloaded_eq_some_iff]
  · obtain ⟨hnext, hfailed⟩ := hholds.fetch hname hwrote
    refine ⟨hfailed, fun other hother hne => ?_⟩
    have hlatest : latest? (downloads ++ downloadsOf network cache force web source) other =
        latest? downloads other := by
      refine latest?_append_of_ne downloads fun download hdownload => ?_
      obtain ⟨body, -, rfl⟩ := List.mem_map.mp hdownload
      exact hne.symm
    exact hholds.entry_congr hnext hother (by simp [Contents.downloaded, hlatest])
      (by simp [Contents.downloaded, hlatest])

/-- A network that answers each request with the next of some bodies, and no request after them. -/
def editions : Network (List (List UInt8)) where
  ask
    | [], address => (.error (.unreachable address.text), [])
    | body :: rest, _ => (.ok { status := 200, length := none, pieces := [body] }, rest)

/-- The source that is fetched over and over. -/
def typesSource : Source := ⟨"types", "https://example.org/types.csv"⟩

/-- An empty cache, and two editions of the file to come. -/
def beforeEditions : Web (List (List UInt8)) :=
  ⟨emptyCache, [Text.Utf8.encode "id\n1\n", Text.Utf8.encode "id\n2\n"]⟩

/-- After a first fetch. -/
def firstEdition : Web (List (List UInt8)) :=
  (Web.fetch editions (some ⟨"cache"⟩) false beforeEditions typesSource).next

/-- After a second fetch, which was forced. -/
def secondEdition : Web (List (List UInt8)) :=
  (Web.fetch editions (some ⟨"cache"⟩) true firstEdition typesSource).next

/-- What the two fetches download. -/
def twoDownloads : List Download :=
  [⟨typesSource, Text.Utf8.encode "id\n1\n"⟩, ⟨typesSource, Text.Utf8.encode "id\n2\n"⟩]

theorem history_secondEdition :
    History editions ⟨"cache"⟩ beforeEditions secondEdition twoDownloads := by
  have hname : isTableName typesSource.name = true := by decide +kernel
  have hfirst : during (Web.fetch editions (some ⟨"cache"⟩) false beforeEditions typesSource) =
      [] := by decide +kernel
  have hsecond : during (Web.fetch editions (some ⟨"cache"⟩) true firstEdition typesSource) =
      [] := by decide +kernel
  have hdownloads : [] ++ downloadsOf editions ⟨"cache"⟩ false beforeEditions typesSource ++
      downloadsOf editions ⟨"cache"⟩ true firstEdition typesSource = twoDownloads := by
    decide +kernel
  have hhistory : History editions ⟨"cache"⟩ beforeEditions firstEdition _ :=
    History.start.fetch false typesSource hname (wrote_of_during (by simp [hfirst]))
  have hlater := hhistory.fetch true typesSource hname (wrote_of_during (by simp [hsecond]))
  rwa [hdownloads] at hlater

/-- Two editions were fetched: the second is served without a request, and a forced fetch that finds
no third leaves the files. -/
theorem served_iff_latest_of_two :
    Cache.IsEmpty ⟨"cache"⟩ beforeEditions.files ∧
    History editions ⟨"cache"⟩ beforeEditions secondEdition twoDownloads ∧
    isTableName typesSource.name = true ∧
    ((Web.fetch editions (some ⟨"cache"⟩) false secondEdition typesSource).result =
        .ok (Text.Utf8.encode "id\n2\n") ∧
      Web.exchanges editions (some ⟨"cache"⟩) false secondEdition typesSource = []) ∧
    (Web.fetch editions (some ⟨"cache"⟩) true secondEdition typesSource).next.files =
      secondEdition.files := by
  have hname : isTableName typesSource.name = true := by decide +kernel
  have hempty : Cache.IsEmpty ⟨"cache"⟩ beforeEditions.files := isEmpty_emptyCache
  have hthird : during (Web.fetch editions (some ⟨"cache"⟩) true secondEdition typesSource) =
      [.fetching typesSource.url] := by decide +kernel
  obtain ⟨hserved, hkept⟩ := served_iff_latest hempty history_secondEdition hname
  have hlatest : latest? twoDownloads typesSource.name =
      some ⟨typesSource, Text.Utf8.encode "id\n2\n"⟩ := by decide +kernel
  obtain ⟨hfailed, -⟩ := hkept true (wrote_of_during (by simp [hthird]))
  refine ⟨hempty, history_secondEdition, hname,
    (hserved _).mpr ⟨_, hlatest, rfl, by decide +kernel⟩, ?_⟩
  cases hlast : (Web.fetch editions (some ⟨"cache"⟩) true secondEdition typesSource).result with
  | ok bytes =>
      rw [during, hlast] at hthird
      contradiction
  | error failure => exact hfailed failure hlast

end DatasetSync.Cache
