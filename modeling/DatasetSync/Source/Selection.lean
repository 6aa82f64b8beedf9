/-
Selecting sources from a catalog.

Either some names are included or some are excluded, not both.  Every name has to
be in the catalog, and what is selected keeps the catalog's order.
-/
import DatasetSync.Log
import DatasetSync.Source.Catalog

namespace DatasetSync

/-- Which sources of a catalog are wanted. -/
structure Selection where
  only : Option (List String) := none
  without : Option (List String) := none
deriving DecidableEq, Repr

namespace Selection

/-- The first of some names that a catalog does not have. -/
def unknownName? (catalog : Catalog) (names : List String) : Option String :=
  names.find? fun name => (catalog.get? name).isNone

/-- Fails if some name is not in the catalog. -/
def checkKnown (catalog : Catalog) (names : List String) : Except Failure Unit :=
  match unknownName? catalog names with
  | some name => failWith (.unknownSource name)
  | none => .ok ()

/-- The sources with one of the names. -/
def including (catalog : Catalog) (names : List String) : Except Failure Catalog := do
  checkKnown catalog names
  return catalog.filter fun s => names.contains s.name

/-- The sources with none of the names. -/
def excluding (catalog : Catalog) (names : List String) : Except Failure Catalog := do
  checkKnown catalog names
  return catalog.filter fun s => !names.contains s.name

/-- What is selected, and the line that the log gets. -/
def resolve (selection : Selection) (catalog : Catalog) : Except Failure (Catalog × LogLine) :=
  let logged (sources : Catalog) (message : String) : Catalog × LogLine :=
    (sources, { level := .info, component := .selection, message })
  match selection.only, selection.without with
  | some _, some _ => failWith .bothSelections
  | some names, none => do
    let sources ← including catalog names
    return logged sources
      ("Including " ++ toString sources.length ++ " sources: " ++ Text.quotedList names)
  | none, some names => do
    let sources ← excluding catalog names
    return logged sources
      ("Including " ++ toString sources.length ++ " sources (after excluding " ++
        Text.quotedList names ++ ")")
  | none, none =>
    .ok (logged catalog ("Including all " ++ toString catalog.length ++ " sources"))

end Selection
end DatasetSync
