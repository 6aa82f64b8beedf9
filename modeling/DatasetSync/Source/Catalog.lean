/-
Catalogs: the sources there are to choose from.

The builtin catalog names fourteen datasets; a manifest can put another in its
place.  A catalog is valid when every name can be that of a table, none is the
registry's, and none comes twice.
-/
import DatasetSync.Source.Basic

namespace DatasetSync

/-- Sources in the order in which they are loaded. -/
abbrev Catalog := List Source

namespace Catalog

/-- The names of the builtin datasets. -/
def builtinNames : List String :=
  ["stats", "types", "type_efficacy", "pokemon_species", "pokemon_stats", "pokemon_types",
    "languages", "type_names", "moves", "move_damage_classes", "move_targets", "natures",
    "abilities", "pokemon_abilities"]

/-- The builtin catalog. -/
def builtin : Catalog :=
  builtinNames.map Source.published

def names (catalog : Catalog) : List String :=
  catalog.map Source.name

/-- The first source of a name. -/
def get? (catalog : Catalog) (name : String) : Option Source :=
  catalog.find? fun s => s.name == name

/-- Checks sources in order; `seen` are the names before them. -/
def validateAfter (seen : List String) : Catalog → Except Cause Unit
  | [] => .ok ()
  | s :: rest =>
    match checkTableName s.name with
    | .error cause => .error cause
    | .ok () =>
      if s.name = registryTable then .error (.reservedName s.name)
      else if s.name ∈ seen then .error (.duplicateSource s.name)
      else validateAfter (s.name :: seen) rest

/-- Refuses a catalog with a name that is no table name, that is reserved, or that comes twice. -/
def validate (catalog : Catalog) : Except Cause Unit :=
  validateAfter [] catalog

end Catalog
end DatasetSync
