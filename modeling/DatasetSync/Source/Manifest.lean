/-
Manifests: catalogs as JSON text.

A manifest is an object with a list of sources under `sources`; each source is an
object with a `name` and a `url`.  Further fields are passed over.  Instead of an
object, a list of the fields in their order will do.
-/
import DatasetSync.Json.Reader
import DatasetSync.Json.Value
import DatasetSync.Source.Catalog

namespace DatasetSync.Manifest

open Json (Stop)

/-! ### Writing -/

/-- A source as a JSON value. -/
def sourceValue (s : Source) : Json.Value :=
  .object [("name", .string s.name), ("url", .string s.url)]

/-- Sources as a JSON value. -/
def catalogValue (catalog : Catalog) : Json.Value :=
  .array (catalog.map sourceValue)

/-- A manifest as a JSON value. -/
def value (catalog : Catalog) : Json.Value :=
  .object [("sources", catalogValue catalog)]

/-! ### Reading -/

/-- How a message calls what stands for a source. -/
def sourceKind : String := "struct DataSource"

/-- How a message calls what stands for a manifest. -/
def manifestKind : String := "struct SourceManifest"

/-- The source from the fields of an object that was read up to its closing brace. -/
def finishSource (name url : Option String) (cs : List Char) : Except Stop (Source × List Char) :=
  match name, url with
  | none, _ => Json.leaveObject (.missingField "name") cs
  | some _, none => Json.leaveObject (.missingField "url") cs
  | some name, some url => do return (⟨name, url⟩, ← Json.endObject cs)

/-- Takes the fields of a source behind the opening brace. -/
def readSourceFields : Nat → Bool → Option String → Option String → List Char →
    Except Stop (Source × List Char)
  | 0, _, _, _, cs => Json.stopBehind .eofInObject cs
  | fuel + 1, first, name, url, cs => do
    match ← Json.nextKey first cs with
    | (none, cs) => finishSource name url cs
    | (some key, cs) =>
      if key = "name" then
        if name.isSome then Json.leaveObject (.duplicateField "name") cs
        else
          let (text, cs) ← Json.readText (← Json.readColon cs)
          readSourceFields fuel false (some text) url cs
      else if key = "url" then
        if url.isSome then Json.leaveObject (.duplicateField "url") cs
        else
          let (text, cs) ← Json.readText (← Json.readColon cs)
          readSourceFields fuel false name (some text) cs
      else
        let cs ← Json.skipValue (← Json.readColon cs)
        readSourceFields fuel false name url cs

/-- Takes the fields of a source, given as a list, behind the opening bracket. -/
def readSourceItems (cs : List Char) : Except Stop (Source × List Char) := do
  let short (length : Nat) (cs : List Char) : Except Stop (Source × List Char) :=
    Json.leaveList (.invalidLength length (sourceKind ++ " with 2 elements")) cs
  match ← Json.nextItem true cs with
  | (false, cs) => short 0 cs
  | (true, cs) =>
    let (name, cs) ← Json.readText cs
    match ← Json.nextItem false cs with
    | (false, cs) => short 1 cs
    | (true, cs) =>
      let (url, cs) ← Json.readText cs
      return (⟨name, url⟩, ← Json.endList cs)

/-- Takes a source. -/
def readSource (cs : List Char) : Except Stop (Source × List Char) :=
  match Json.skipSpace cs with
  | '\x7b' :: rest => readSourceFields (rest.length + 1) true none none rest
  | '[' :: rest => readSourceItems rest
  | rest => Json.unexpected sourceKind rest

/-- Takes the sources of a list behind the opening bracket; `done` holds those before, the newest
first. -/
def readSourcesFrom : Nat → Bool → List Source → List Char → Except Stop (Catalog × List Char)
  | 0, _, _, cs => Json.stopBehind .eofInList cs
  | fuel + 1, first, done, cs => do
    match ← Json.nextItem first cs with
    | (false, cs) => return (done.reverse, ← Json.endList cs)
    | (true, cs) =>
      let (source, cs) ← readSource cs
      readSourcesFrom fuel false (source :: done) cs

/-- Takes a list of sources. -/
def readSources (cs : List Char) : Except Stop (Catalog × List Char) :=
  match Json.skipSpace cs with
  | '[' :: rest => readSourcesFrom (rest.length + 1) true [] rest
  | rest => Json.unexpected "a sequence" rest

/-- Takes the fields of a manifest behind the opening brace. -/
def readFields : Nat → Bool → Option Catalog → List Char → Except Stop (Catalog × List Char)
  | 0, _, _, cs => Json.stopBehind .eofInObject cs
  | fuel + 1, first, sources, cs => do
    match ← Json.nextKey first cs, sources with
    | (none, cs), none => Json.leaveObject (.missingField "sources") cs
    | (none, cs), some sources => return (sources, ← Json.endObject cs)
    | (some key, cs), _ =>
      if key = "sources" then
        if sources.isSome then Json.leaveObject (.duplicateField "sources") cs
        else
          let (catalog, cs) ← readSources (← Json.readColon cs)
          readFields fuel false (some catalog) cs
      else
        let cs ← Json.skipValue (← Json.readColon cs)
        readFields fuel false sources cs

/-- Takes a manifest, given as a list, behind the opening bracket. -/
def readItems (cs : List Char) : Except Stop (Catalog × List Char) := do
  match ← Json.nextItem true cs with
  | (false, cs) => Json.leaveList (.invalidLength 0 (manifestKind ++ " with 1 element")) cs
  | (true, cs) =>
    let (catalog, cs) ← readSources cs
    return (catalog, ← Json.endList cs)

/-- Takes a manifest. -/
def read (cs : List Char) : Except Stop (Catalog × List Char) :=
  match Json.skipSpace cs with
  | '\x7b' :: rest => readFields (rest.length + 1) true none rest
  | '[' :: rest => readItems rest
  | rest => Json.unexpected manifestKind rest

/-- Reads a text that is a manifest as a whole. -/
def parse (text : String) : Except Json.Fault Catalog :=
  let whole := text.toList
  let result : Except Stop Catalog := do
    let (catalog, rest) ← read whole
    Json.atEnd rest
    return catalog
  result.mapError (Json.Stop.locate whole)

end DatasetSync.Manifest
