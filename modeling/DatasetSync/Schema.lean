/-
Schemas, and how one is inferred from a dataset.

Per column:

* `INTEGER` when some value is present and every present value is a whole-number
  literal;
* `REAL` when every present value is a number and one is not whole, or when there
  are rows but no value is present;
* `TEXT` otherwise, also when there are no rows.

A column is required when there is a row and no value is missing.
-/
import DatasetSync.Dataset.Basic
import DatasetSync.Number.Literal

namespace DatasetSync

/-- The type of a column. -/
inductive ColumnType
  | integer
  | real
  | text
deriving DecidableEq, Repr

/-- The word for a type. -/
def ColumnType.word : ColumnType → String
  | integer => "INTEGER"
  | real => "REAL"
  | text => "TEXT"

/-- A column of a table. -/
structure Column where
  name : String
  type : ColumnType
  nullable : Bool
deriving DecidableEq, Repr

/-- A table's name and columns. -/
structure Schema where
  name : String
  columns : List Column
deriving DecidableEq, Repr

namespace Schema

def columnNames (s : Schema) : List String :=
  s.columns.map Column.name

/-- What has been seen of the cells of one column. -/
structure Sighting where
  present : Nat := 0
  missing : Nat := 0
  allWhole : Bool := true
  allNumeric : Bool := true

namespace Sighting

/-- Takes note of one more cell.  Once a value was no number, the others are only counted. -/
def observe (s : Sighting) : Option String → Sighting
  | none => { s with missing := s.missing + 1 }
  | some cell =>
    let s := { s with present := s.present + 1 }
    if !s.allNumeric then s
    else if (Number.parseWhole cell).isSome then s
    else { s with allWhole := false, allNumeric := (Number.parseReal cell).isSome }

/-- The type that what was seen calls for. -/
def type (s : Sighting) : ColumnType :=
  if s.present = 0 then (if s.missing = 0 then .text else .real)
  else if s.allWhole then .integer
  else if s.allNumeric then .real
  else .text

def nullable (s : Sighting) : Bool :=
  s.present == 0 || 0 < s.missing

end Sighting

/-- The column that cells call for. -/
def inferColumn (name : String) (cells : List (Option String)) : Column :=
  let seen := cells.foldl Sighting.observe {}
  ⟨name, seen.type, seen.nullable⟩

/-- The schema that a dataset calls for. -/
def infer (name : String) (d : Dataset) : Schema :=
  ⟨name, d.columns.mapIdx fun index column => inferColumn column (d.column index)⟩

end Schema
end DatasetSync
