/-
What a column is declared with.

Besides its name and its type a column has conditions: that it holds no null, that no
value comes twice, or that every value is found in another column of the same table.
Texts are compared by the column's collation, which decides when two of them are the
same value and which of two comes first.  References from one table to another are
left out, and so is what may be done or put off when a value refers to nothing.
-/
import DatasetSync.Database.Affinity

namespace DatasetSync.Database

/-! ### Comparing texts -/

/-- How the texts of a column are compared. -/
inductive Collation
  | binary
  /-- Without regard to ASCII case. -/
  | nocase
  /-- Without regard to blanks at the end. -/
  | rtrim
deriving DecidableEq, Repr

/-- What a value is compared as. -/
def Collation.key (collation : Collation) : Value → Value
  | .text s =>
    match collation with
    | .binary => .text s
    | .nocase => .text (Text.fold s)
    | .rtrim => .text (String.ofList (s.toList.reverse.dropWhile (· == ' ')).reverse)
  | v => v

/-- Two values are the same. -/
def Collation.same (collation : Collation) (v w : Value) : Bool :=
  collation.key v == collation.key w

/-! ### Columns -/

/-- The column of the same table that another one refers to. -/
inductive Reference
  /-- The table's key, whichever column it is. -/
  | key
  | column (name : String)
deriving DecidableEq, Repr

/-- The definition of a column. -/
structure ColumnDef where
  name : String
  /-- The type as it is written. -/
  declared : String
  notNull : Bool := false
  /-- The column is the table's key: its values have to be distinct. -/
  isKey : Bool := false
  /-- The values have to be distinct, whether the column is the key or not. -/
  isUnique : Bool := false
  collation : Collation := .binary
  /-- The value in a row that is given none. -/
  preset : Value := .null
  /-- Where every value but null has to be found. -/
  refersTo : Option Reference := none
deriving DecidableEq, Repr

namespace ColumnDef

/-- What is done to a value that is stored in the column. -/
def store (c : ColumnDef) (v : Value) : Value :=
  (Affinity.ofDeclared c.declared).store v

/-- No value comes twice. -/
def isDistinct (c : ColumnDef) : Bool :=
  c.isKey || c.isUnique

/-- The key is the number that the rows are kept by, and needs no index of its own. -/
def isRowNumber (c : ColumnDef) : Bool :=
  c.isKey && Text.sameName c.declared "integer"

/-- How many indexes the database keeps for the column. -/
def ownIndexes (c : ColumnDef) : Nat :=
  if c.isUnique || (c.isKey && !c.isRowNumber) then 1 else 0

end ColumnDef
end DatasetSync.Database
