/-
Sources: named datasets and where they are fetched from.

A source's name becomes the name of its table, so it is held to what a table may
be called: ASCII letters, digits and underscores, no digit first, and none of the
names that the database keeps for itself.
-/
import DatasetSync.Failure
import DatasetSync.Text.Blank

namespace DatasetSync

/-- A named dataset and where it is fetched from. -/
structure Source where
  name : String
  url : String
deriving DecidableEq, Repr, Inhabited

/-- The table in which the database records what was loaded. -/
def registryTable : String := "data_sources"

/-- An ASCII letter or an underscore. -/
def isNameStart (c : Char) : Bool :=
  ('a' ≤ c && c ≤ 'z') || ('A' ≤ c && c ≤ 'Z') || c == '_'

/-- An ASCII letter or digit, or an underscore. -/
def isNamePart (c : Char) : Bool :=
  isNameStart c || ('0' ≤ c && c ≤ '9')

/-- The name begins like one that the database keeps for itself. -/
def isInternalName (name : String) : Bool :=
  "sqlite_".toList.isPrefixOf (Text.fold name).toList

/-- The name can be that of a table. -/
def isTableName (name : String) : Bool :=
  match name.toList with
  | [] => false
  | c :: rest => isNameStart c && rest.all isNamePart && !isInternalName name

/-- Refuses a name that cannot be that of a table. -/
def checkTableName (name : String) : Except Cause Unit :=
  if isTableName name then .ok () else .error (.invalidTableName name)

/-- Where the builtin datasets are published. -/
def publishedAt : String :=
  "https://raw.githubusercontent.com/veekun/pokedex/refs/heads/master/pokedex/data/csv"

/-- The dataset of a name among the published ones. -/
def Source.published (name : String) : Source :=
  ⟨name, publishedAt ++ "/" ++ name ++ ".csv"⟩

end DatasetSync
