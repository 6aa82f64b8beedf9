/-
Failures.

A failure is a cause, wrapped in the activities during which it came up, the
outermost first.  Causes and activities are data; the wording of each stands in
one place here.  The full message joins everything with colons, and a report to
the person at the terminal lists the causes below the outermost line.
-/
import DatasetSync.Database.Fault
import DatasetSync.Files.Fault
import DatasetSync.Json.Fault
import DatasetSync.Network.Fault
import DatasetSync.Text.Blank
import DatasetSync.Text.Quoted
namespace DatasetSync

/-- A record with a field that is not UTF-8. -/
structure Undecodable where
  /-- The number of records before it. -/
  record : Nat
  line : Nat
  /-- The first such field, counted from zero. -/
  field : Nat
  /-- The number of bytes before the record. -/
  byte : Nat
  /-- The length of the field's valid part. -/
  valid : Nat
deriving DecidableEq, Repr

/-- What went wrong. -/
inductive Cause
  /-- The name belongs to the registry of sources. -/
  | reservedName (name : String)
  | invalidTableName (name : String)
  | duplicateSource (name : String)
  | emptyPayload
  | raggedRow (line expected found : Nat)
  | undecodable (fault : Undecodable)
  /-- A row has fewer cells than the schema has columns. -/
  | rowTooShort (cells columns : Nat)
  | json (fault : Json.Fault)
  | database (fault : Database.Fault)
  | network (fault : Network.Fault)
  | files (fault : Files.Fault)
  /-- The server answered, but not with the file. -/
  | refused (url status : String)
  /-- Nothing is kept in memory for a source. -/
  | noPayload (url : String)
  | bothSelections
  | unknownSource (name : String)
  | noDatabase (path : String)
  | noCacheDirectory
  | sourcesFailed (names : List String)
deriving DecidableEq, Repr

/-- What was being done when it went wrong. -/
inductive Activity
  | readingHeader
  | readingRecord
  | parsing (source : String)
  | readingManifest (path : String)
  | parsingManifest (path : String)
  | openingDatabase (path : String)
  | configuringDatabase
  | creatingRegistry
  | registering (source : String)
  | unregistering (table : String)
  | readingRegistry
  | droppingTable (table : String)
  | creatingTable (table : String)
  | insertingRows (table : String)
  | lookingUpTable (table : String)
  | countingRows (table : String)
  | ingesting (source : String)
  | creatingCacheDirectory (path : String)
  | readingCacheEntry (source : String)
  | readingCachedFile (path : String)
  | writingCacheFile (path : String)
  | removingCacheFile (path : String)
  | creatingClient
  | fetching (url : String)
  | readingResponse (url : String)
  | readingFile (path : String)
deriving DecidableEq, Repr

/-- The messages of a cause, the first outermost. -/
def Cause.chain : Cause → List String
  | reservedName name => ["'" ++ name ++ "' is reserved for the source registry"]
  | invalidTableName name =>
    ["invalid table name '" ++ name ++
      "': use ASCII letters, digits and '_', not starting with a digit"]
  | duplicateSource name => ["duplicate source '" ++ name ++ "'"]
  | emptyPayload => ["CSV payload has no header row"]
  | raggedRow line expected found =>
    [s!"expected {expected} fields in line {line}, saw {found}"]
  | undecodable f =>
    ["CSV parse error: record " ++ toString f.record ++ " (line " ++ toString f.line ++
      ", field: " ++ toString f.field ++ ", byte: " ++ toString f.byte ++
      "): invalid utf-8: invalid UTF-8 in field " ++ toString f.field ++ " near byte index " ++
      toString f.valid]
  | rowTooShort cells columns => [s!"a row of {cells} cells for {columns} columns"]
  | json fault => [fault.message]
  | database fault => fault.chain
  | network fault => fault.chain
  | files fault => [fault.message]
  | refused url status => ["HTTP request for " ++ url ++ " failed: " ++ status]
  | noPayload url => ["404 for " ++ url]
  | bothSelections => ["Cannot use both --include and --exclude at the same time"]
  | unknownSource name => ["Unknown source: " ++ name]
  | noDatabase path => ["Database not found: " ++ Text.quoted path]
  | noCacheDirectory => ["Could not determine cache directory"]
  | sourcesFailed names =>
    [toString names.length ++ " source(s) failed: " ++ ", ".intercalate names]

/-- The message of an activity. -/
def Activity.message : Activity → String
  | readingHeader => "Failed to read CSV header"
  | readingRecord => "Failed to read CSV record"
  | parsing source => "Failed to parse CSV for " ++ source
  | readingManifest path => "Failed to read source manifest: " ++ Text.quoted path
  | parsingManifest path => "Failed to parse source manifest: " ++ Text.quoted path
  | openingDatabase path => "Failed to open database: " ++ Text.quoted path
  | configuringDatabase => "Failed to configure database"
  | creatingRegistry => "Failed to create source registry"
  | registering source => "Failed to register source: " ++ source
  | unregistering table => "Failed to unregister source: " ++ table
  | readingRegistry => "Failed to read source registry"
  | droppingTable table => "Failed to drop table: " ++ table
  | creatingTable table => "Failed to create table: " ++ table
  | insertingRows table => "Failed to insert rows into: " ++ table
  | lookingUpTable table => "Failed to look up table: " ++ table
  | countingRows table => "Failed to count rows in: " ++ table
  | ingesting source => "Failed to ingest " ++ source
  | creatingCacheDirectory path => "Failed to create cache directory: " ++ Text.quoted path
  | readingCacheEntry source => "Failed to read cache entry: " ++ source
  | readingCachedFile path => "Failed to read cached file: " ++ Text.quoted path
  | writingCacheFile path => "Failed to write cache file: " ++ Text.quoted path
  | removingCacheFile path => "Failed to remove cache file: " ++ Text.quoted path
  | creatingClient => "Failed to create HTTP client"
  | fetching url => "Failed to fetch " ++ url
  | readingResponse url => "Failed to read response from " ++ url
  | readingFile path => "Failed to read: " ++ Text.quoted path

/-- A cause and the activities around it, the outermost first. -/
structure Failure where
  during : List Activity := []
  cause : Cause
deriving DecidableEq, Repr

namespace Failure

/-- The same failure, seen from a further activity around it. -/
def within (activity : Activity) (f : Failure) : Failure :=
  { f with during := activity :: f.during }

/-- All messages, the outermost first. -/
def chain (f : Failure) : List String :=
  f.during.map Activity.message ++ f.cause.chain

/-- The full message. -/
def message (f : Failure) : String :=
  ": ".intercalate f.chain

/-- The lines below a line, indented. -/
def indented (lead : String) (text : String) : String :=
  lead ++ "\n    ".intercalate (text.splitOn "\n")

/-- The report for the terminal: the outermost message, then the causes, numbered when there are
several. -/
def report (f : Failure) : String :=
  match f.chain with
  | [] => ""
  | [only] => only
  | [outer, inner] => outer ++ "\n\nCaused by:\n" ++ indented "    " inner
  | outer :: inner =>
    let numbered := inner.zipIdx.map fun (text, k) =>
      Text.padLeft 5 (toString k) ++ ": " ++ "\n       ".intercalate (text.splitOn "\n")
    outer ++ "\n\nCaused by:\n" ++ "\n".intercalate numbered

end Failure

/-- Marks a failure with the activity in which it came up. -/
def during {α : Type} (activity : Activity) (result : Except Failure α) : Except Failure α :=
  result.mapError (Failure.within activity)

/-- Fails with a cause and nothing around it. -/
def failWith {α : Type} (cause : Cause) : Except Failure α :=
  .error ⟨[], cause⟩

end DatasetSync
