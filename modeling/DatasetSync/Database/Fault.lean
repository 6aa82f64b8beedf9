/-
What the database refuses, and how it says so.

A refusal has a message and a numbered class.  When the statement's text is at
fault the message goes on with the whole statement and the byte at which reading
it stopped.
-/
namespace DatasetSync.Database

/-- A place in the text of a statement. -/
structure Spot where
  statement : String
  /-- The number of bytes before the place. -/
  offset : Nat
deriving DecidableEq, Repr

/-- Why a statement, or opening a database, fails. -/
inductive Fault
  | noSuchTable (name : String)
  | noSuchColumn (name : String) (spot : Spot)
  /-- An insertion names a column that the table does not have. -/
  | unknownColumn (table column : String)
  | valueCount (table : String) (columns values : Nat)
  | duplicateColumn (name : String)
  | tooManyColumns (table : String)
  /-- The name of a new object, as written, is taken by a table. -/
  | tableExists (written : String) (spot : Spot)
  /-- The name of a new object, as written, is taken by a view. -/
  | viewExists (written : String) (spot : Spot)
  | indexTakesName (name : String)
  | tableTakesName (name : String)
  | indexExists (name : String)
  | viewNotDropped (name : String)
  | systemTableNotDropped (name : String)
  | systemTableNotWritten (name : String)
  | viewNotWritten (name : String)
  | viewNotIndexed
  | reservedObject (name : String)
  /-- The statement ends early or goes on wrongly at a token. -/
  | nearToken (token : String) (spot : Spot)
  | unrecognizedToken (token : String) (spot : Spot)
  | notNull (table column : String)
  | keyTaken (table column : String)
  /-- A value has to be distinct and is there already, in a column that is no key. -/
  | valueTaken (table column : String)
  /-- A value that refers to others is not found there, or would not be any more. -/
  | valueNotFound (table : String)
  /-- A column of the table refers to none in which values are distinct. -/
  | referenceMismatch (table : String)
  /-- A stored value does not have the type that a column is read as. -/
  | columnType (found : String) (index : Nat) (column : String)
  | readOnly
  | cannotOpen (path : String)
  | notADatabase
deriving DecidableEq, Repr

namespace Fault

/-- The message with the statement and the place in it. -/
def located (message : String) (spot : Spot) : String :=
  message ++ " in " ++ spot.statement ++ " at offset " ++ toString spot.offset

/-- The message of a refusal. -/
def message : Fault → String
  | noSuchTable name => "no such table: " ++ name
  | noSuchColumn name spot => located ("no such column: " ++ name) spot
  | unknownColumn table column => "table " ++ table ++ " has no column named " ++ column
  | valueCount table columns values =>
    s!"table {table} has {columns} columns but {values} values were supplied"
  | duplicateColumn name => "duplicate column name: " ++ name
  | tooManyColumns table => "too many columns on " ++ table
  | tableExists written spot => located ("table " ++ written ++ " already exists") spot
  | viewExists written spot => located ("view " ++ written ++ " already exists") spot
  | indexTakesName name => "there is already an index named " ++ name
  | tableTakesName name => "there is already a table named " ++ name
  | indexExists name => "index " ++ name ++ " already exists"
  | viewNotDropped name => "use DROP VIEW to delete view " ++ name
  | systemTableNotDropped name => "table " ++ name ++ " may not be dropped"
  | systemTableNotWritten name => "table " ++ name ++ " may not be modified"
  | viewNotWritten name => "cannot modify " ++ name ++ " because it is a view"
  | viewNotIndexed => "views may not be indexed"
  | reservedObject name => "object name reserved for internal use: " ++ name
  | nearToken token spot => located ("near \"" ++ token ++ "\": syntax error") spot
  | unrecognizedToken token spot => located ("unrecognized token: \"" ++ token ++ "\"") spot
  | notNull table column => "NOT NULL constraint failed: " ++ table ++ "." ++ column
  | keyTaken table column => "UNIQUE constraint failed: " ++ table ++ "." ++ column
  | valueTaken table column => "UNIQUE constraint failed: " ++ table ++ "." ++ column
  | valueNotFound _ => "FOREIGN KEY constraint failed"
  | referenceMismatch table =>
    "foreign key mismatch - \"" ++ table ++ "\" referencing \"" ++ table ++ "\""
  | columnType found index column =>
    s!"Invalid column type {found} at index: {index}, name: {column}"
  | readOnly => "attempt to write a readonly database"
  | cannotOpen path => "unable to open database file: " ++ path
  | notADatabase => "file is not a database"

/-- The class of a refusal: its number and what the number stands for. -/
def category : Fault → Option (Nat × String)
  | notNull .. => some (1299, "A NOT NULL constraint failed")
  | keyTaken .. => some (1555, "A PRIMARY KEY constraint failed")
  | valueTaken .. => some (2067, "A UNIQUE constraint failed")
  | valueNotFound _ => some (787, "Foreign key constraint failed")
  | readOnly => some (8, "Attempt to write a readonly database")
  | cannotOpen _ => some (14, "Unable to open the database file")
  | notADatabase => some (26, "File opened that is not a database file")
  | columnType .. => none
  | _ => some (1, "SQL error or missing database")

/-- A row that is refused so is left out where an insertion says that it may be. -/
def isIgnored : Fault → Bool
  | notNull .. | keyTaken .. | valueTaken .. => true
  | _ => false

/-- The message and the class, the first outermost. -/
def chain (f : Fault) : List String :=
  match f.category with
  | some (number, text) => [f.message, "Error code " ++ toString number ++ ": " ++ text]
  | none => [f.message]

end Fault
end DatasetSync.Database
