/-
The cache: local copies of fetched files.

Each source has two files in the cache's directory, `NAME.csv` with the bytes and
`NAME.url` with the address they came from.  A copy is only served for the address
it was fetched from; the blanks around the recorded address do not count.
-/
import DatasetSync.Files.Tree
import DatasetSync.Notice

namespace DatasetSync

/-- A directory for copies of fetched files. -/
structure Cache where
  directory : String
deriving DecidableEq, Repr

namespace Cache

/-- The path of a source's copy. -/
def csvPath (cache : Cache) (name : String) : String :=
  Path.join cache.directory (name ++ ".csv")

/-- The path of the file that records where a copy came from. -/
def urlPath (cache : Cache) (name : String) : String :=
  Path.join cache.directory (name ++ ".url")

/-- Takes a directory as a cache and creates it if it is missing. -/
def prepare (files : Files) (directory : String) : Except Failure (Cache × Files) :=
  match files.makeDirectories directory with
  | .ok files => .ok (⟨directory⟩, files)
  | .error fault => .error ⟨[.creatingCacheDirectory directory], .files fault⟩

/-- The copy of a source, if there is one and it came from the address; and the log's line about a
copy that came from another. -/
def read (cache : Cache) (files : Files) (name url : String) :
    Except Failure (Option (List UInt8)) × List Event :=
  if !files.isFile (cache.csvPath name) then (.ok none, [])
  else
    match files.readText (cache.urlPath name) with
    | .error .notFound => (.ok none, [])
    | .error fault => (.error ⟨[.readingCacheEntry name], .files fault⟩, [])
    | .ok origin =>
      if Text.trim origin = url then
        match files.read (cache.csvPath name) with
        | .ok bytes => (.ok (some bytes), [])
        | .error fault => (.error ⟨[.readingCachedFile (cache.csvPath name)], .files fault⟩, [])
      else
        (.ok none, [.log .debug .cache
          ("Cached " ++ name ++ " came from " ++ Text.trim origin ++ ", wanted " ++ url)])

/-- Keeps a copy of what was fetched from an address: first the bytes, then the address. -/
def store (cache : Cache) (files : Files) (name url : String) (bytes : List UInt8) :
    Except Failure Unit × Files :=
  match files.write (cache.csvPath name) bytes with
  | .error fault => (.error ⟨[.writingCacheFile (cache.csvPath name)], .files fault⟩, files)
  | .ok files =>
    match files.write (cache.urlPath name) (Text.Utf8.encode url) with
    | .error fault => (.error ⟨[.writingCacheFile (cache.urlPath name)], .files fault⟩, files)
    | .ok files => (.ok (), files)

/-- Removes the copies and the records of where they came from, by some names of the cache's
directory, and counts the copies.  A name whose path leads to no file is left, whatever stands
there. -/
def clearNames (cache : Cache) (removed : Nat) :
    List String → Files → Except Failure Nat × Files
  | [], files => (.ok removed, files)
  | name :: rest, files =>
    let path := Path.join cache.directory name
    let extension := Path.extension? name
    if files.isFile path ∧ (extension = some "csv" ∨ extension = some "url") then
      match files.removeFile path with
      | .error fault => (.error ⟨[.removingCacheFile path], .files fault⟩, files)
      | .ok files =>
        cache.clearNames (if extension = some "csv" then removed + 1 else removed) rest files
    else cache.clearNames removed rest files

/-- Removes every copy, and says how many there were. -/
def clear (cache : Cache) (files : Files) : Except Failure Nat × Files :=
  match files.locate cache.directory with
  | .error fault => (failWith (.files fault), files)
  | .ok place =>
    match files.node? place with
    | none => (failWith (.files .notFound), files)
    | some (.file _) => (failWith (.files .notADirectory), files)
    | some .directory => cache.clearNames 0 (files.childNames place) files

end Cache
end DatasetSync
