/-
The texts of statements.

Names stand in double quotes with inner quotes doubled, so any text can be a
name.  A table's definition lists one column a line.
-/
import DatasetSync.Schema

namespace DatasetSync.Statement

/-- A quote inside a name is doubled. -/
def doubleQuotes : List Char → List Char
  | [] => []
  | c :: rest => if c = '"' then '"' :: '"' :: doubleQuotes rest else c :: doubleQuotes rest

/-- A name as it is written in a statement. -/
def quoteName (name : String) : String :=
  String.ofList ('"' :: doubleQuotes name.toList ++ ['"'])

/-- The definition of one column. -/
def columnDefinition (c : Column) : String :=
  "    " ++ quoteName c.name ++ " " ++ c.type.word ++ (if c.nullable then "" else " NOT NULL")

/-- The statement that creates a table. -/
def createTable (s : Schema) : String :=
  "CREATE TABLE " ++ quoteName s.name ++ " (\n" ++
    ",\n".intercalate (s.columns.map columnDefinition) ++ "\n)"

/-- The statement that inserts a row, with a place for each value. -/
def insertRow (s : Schema) : String :=
  "INSERT INTO " ++ quoteName s.name ++ " (" ++
    ", ".intercalate (s.columns.map fun c => quoteName c.name) ++ ") VALUES (" ++
    ", ".intercalate (s.columns.map fun _ => "?") ++ ")"

end DatasetSync.Statement
