/-
Values of the database, and the value that a cell becomes.
-/
import DatasetSync.Schema

namespace DatasetSync

/-- A value.  Integers fit into 64 bits, and no real number is a NaN, where values come from
cells. -/
inductive Value
  | null
  | integer (n : Int)
  | real (x : Number.Binary64)
  | text (s : String)
deriving DecidableEq, Repr, Inhabited

/-- The value of a cell in a column of a type.  A cell that is not of the type stays text. -/
def Value.ofCell (type : ColumnType) : Option String → Value
  | none => .null
  | some cell =>
    match type with
    | .integer => (Number.parseWhole cell).elim (.text cell) .integer
    | .real => (Number.parseReal cell).elim (.text cell) .real
    | .text => .text cell

end DatasetSync
