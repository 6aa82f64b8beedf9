/-
The database: tables, views and indexes, and what statements do to them.

Names of tables and columns are compared without regard to ASCII case, but stay
as they were written.  A statement either changes the database or is refused and
changes nothing, so each is a function to the changed database or to the reason.

A virtual table keeps its content in other tables, which go with it when it is
dropped.  There are no triggers and no checks, no indexes that keep values apart on
several columns, and no references from one table to another.
-/
import DatasetSync.Database.Column
import DatasetSync.Database.Fault
import DatasetSync.Database.Statement
import DatasetSync.Source.Basic
import DatasetSync.Text.Utf8

namespace DatasetSync

/-- The values of one row of a table, a value for each column. -/
abbrev Row := List Value

namespace Database

/-- A table. -/
structure Table where
  name : String
  columns : List ColumnDef
  /-- The statement that the table was created by. -/
  definition : String
  rows : Array Row := #[]
  /-- The names of the tables in which a virtual table keeps its content. -/
  shadows : List String := []
deriving DecidableEq, Repr

/-- A stored query. -/
structure View where
  name : String
  definition : String
deriving DecidableEq, Repr

/-- An index of a table. -/
structure Index where
  name : String
  table : String
  definition : String
deriving DecidableEq, Repr

/-- How changes reach the file. -/
inductive Journal
  | delete
  | writeAhead
deriving DecidableEq, Repr

end Database

/-- A database. -/
structure Database where
  tables : List Database.Table := []
  views : List Database.View := []
  indexes : List Database.Index := []
  journal : Database.Journal := .delete
deriving DecidableEq, Repr

namespace Database

open Text (sameName)

/-! ### Looking things up -/

/-- The table of a name. -/
def table? (db : Database) (name : String) : Option Table :=
  db.tables.find? fun t => sameName t.name name

def view? (db : Database) (name : String) : Option View :=
  db.views.find? fun v => sameName v.name name

def index? (db : Database) (name : String) : Option Index :=
  db.indexes.find? fun i => sameName i.name name

/-- A table of this name exists. -/
def hasTable (db : Database) (name : String) : Bool :=
  (db.table? name).isSome

/-- The names under which the lists of all objects can be read, and what the lists are called. -/
def objectLists : List (String × String) :=
  [("sqlite_master", "sqlite_master"), ("sqlite_schema", "sqlite_master"),
    ("sqlite_temp_master", "sqlite_temp_master"), ("sqlite_temp_schema", "sqlite_temp_master")]

/-- The list of all objects, or of those that are temporary, that has this name. -/
def objectList? (name : String) : Option String :=
  (objectLists.find? fun entry => sameName entry.1 name).map Prod.snd

/-- How many entries a list of objects has: nothing is temporary. -/
def objectCount (db : Database) (list : String) : Nat :=
  if list = "sqlite_master" then
    db.tables.foldl (fun n t => t.columns.foldl (fun n c => n + c.ownIndexes) (n + 1))
      (db.views.length + db.indexes.length)
  else 0

/-- The number of rows of a table or of what can be read like one. -/
def rowCount (db : Database) (name : String) : Except Fault Nat :=
  match db.table? name with
  | some t => .ok t.rows.size
  | none =>
    match objectList? name with
    | some list => .ok (db.objectCount list)
    | none => if (db.view? name).isSome then .ok 1 else .error (.noSuchTable name)

/-! ### Texts with a NUL

A statement ends at a NUL character, so a name that holds one is cut off within
its quotes. -/

/-- Refuses a name that holds a NUL, in a statement in which the quoted name begins at a byte. -/
def checkQuoted (name statement : String) (offset : Nat) : Except Fault Unit :=
  if '\x00' ∈ name.toList then
    let token := (Statement.quoteName name).toList.takeWhile (· != '\x00')
    .error (.unrecognizedToken (String.ofList token) ⟨statement, offset⟩)
  else .ok ()

/-! ### Tables -/

/-- The statement that drops a table. -/
def dropStatement (ifExists : Bool) (name : String) : String :=
  (if ifExists then "DROP TABLE IF EXISTS " else "DROP TABLE ") ++ Statement.quoteName name

/-- A name of a table that goes when this one is dropped: its own, and those of the tables that it
keeps its content in. -/
def Table.goesAlong (t : Table) (other : String) : Bool :=
  sameName other t.name || t.shadows.any (sameName other)

/-- Drops a table with all that goes along, and with the indexes of these tables.  With `ifExists`,
a table that is not there is as good as dropped. -/
def dropTable (db : Database) (ifExists : Bool) (name : String) : Except Fault Database := do
  checkQuoted name (dropStatement ifExists name) (if ifExists then 21 else 11)
  match db.table? name, db.view? name with
  | some t, _ =>
    return { db with
      tables := db.tables.filter fun u => !t.goesAlong u.name
      indexes := db.indexes.filter fun i => !t.goesAlong i.table }
  | none, some v => .error (.viewNotDropped v.name)
  | none, none =>
    match objectList? name with
    | some list => .error (.systemTableNotDropped list)
    | none => if ifExists then return db else .error (.noSuchTable name)

/-- How many columns a table can have. -/
def maxColumns : Nat := 2000

/-- Refuses the columns of a new table in their order: one too many, or one of a name that came
before.  Each comes with the byte at which it is named in the statement. -/
def checkColumns (table statement : String) (seen : List String) :
    List (String × Nat) → Except Fault Unit
  | [] => .ok ()
  | (name, offset) :: rest => do
    checkQuoted name statement offset
    if maxColumns < seen.length + 1 then .error (.tooManyColumns table)
    else if seen.any (sameName name) then .error (.duplicateColumn name)
    else checkColumns table statement (name :: seen) rest

/-- Refuses the name of a new table or view, which stands at a byte of its statement. -/
def checkNewName (db : Database) (name statement : String) (offset : Nat) : Except Fault Unit := do
  checkQuoted name statement offset
  if isInternalName name then .error (.reservedObject name)
  else if (db.table? name).isSome then
    .error (.tableExists (Statement.quoteName name) ⟨statement, offset⟩)
  else if (db.view? name).isSome then
    .error (.viewExists (Statement.quoteName name) ⟨statement, offset⟩)
  else if (db.index? name).isSome then .error (.indexTakesName name)
  else .ok ()

/-- The number of bytes of a text. -/
def byteSize (s : String) : Nat :=
  (Text.Utf8.encode s).length

/-- The definition of a column of a schema. -/
def ColumnDef.ofColumn (c : Column) : ColumnDef :=
  { name := c.name, declared := c.type.word, notNull := !c.nullable }

/-- The bytes at which the columns of a schema are named in the statement that creates it. -/
def columnOffsets (start : Nat) : List Column → List (String × Nat)
  | [] => []
  | c :: rest =>
    (c.name, start + 4) :: columnOffsets (start + byteSize (Statement.columnDefinition c) + 2) rest

/-- Creates the table of a schema. -/
def createTable (db : Database) (s : Schema) : Except Fault Database := do
  let statement := Statement.createTable s
  db.checkNewName s.name statement 13
  let first := 13 + byteSize (Statement.quoteName s.name) + 3
  if s.columns.isEmpty then
    .error (.nearToken ")" ⟨statement, first + 1⟩)
  checkColumns s.name statement [] (columnOffsets first s.columns)
  let t : Table :=
    { name := s.name, columns := s.columns.map ColumnDef.ofColumn, definition := statement }
  return { db with tables := db.tables ++ [t] }

/-! ### Columns -/

/-- A table has a column of this name. -/
def Table.hasColumn (t : Table) (name : String) : Bool :=
  t.columns.any fun c => sameName c.name name

/-- The index of a table's column. -/
def Table.columnIndex? (t : Table) (name : String) : Option Nat :=
  t.columns.findIdx? fun c => sameName c.name name

/-- A row has a value in a column, as the column compares values. -/
def Table.hasValue (t : Table) (index : Nat) (value : Value) (row : Row) : Bool :=
  match t.columns[index]?, row[index]? with
  | some c, some v => c.collation.same v value
  | _, _ => false

/-- The index of the column that a reference means.  Values can only be found in a column in which
they are distinct. -/
def Table.target? (t : Table) : Reference → Option Nat
  | .key => t.columns.findIdx? ColumnDef.isKey
  | .column name => t.columns.findIdx? fun c => sameName c.name name && c.isDistinct

/-- The columns that refer to others: the reference of each, with the column's index. -/
def Table.references (t : Table) : List (Reference × Nat) :=
  t.columns.zipIdx.filterMap fun (c, index) => c.refersTo.map (·, index)

/-! ### Rows -/

/-- Refuses a reference that leads to no column of distinct values. -/
def Table.checkTargets (t : Table) : Except Fault Unit :=
  if t.references.all fun (reference, _) => (t.target? reference).isSome then .ok ()
  else .error (.referenceMismatch t.name)

/-- Refuses a null where none is allowed. -/
def Table.checkNulls (t : Table) : List ColumnDef → Row → Except Fault Unit
  | c :: columns, v :: row =>
    if c.notNull && v == .null then .error (.notNull t.name c.name) else t.checkNulls columns row
  | _, _ => .ok ()

/-- The row as it is read back. -/
def Table.stored (t : Table) (row : Row) : Row :=
  List.zipWith ColumnDef.store t.columns row

/-- The column in which a row would repeat a value, the last one first. -/
def Table.repeated? (t : Table) (row : Row) : Option ColumnDef :=
  let distinct := (t.columns.zip row).zipIdx.filter fun entry =>
    entry.1.1.isDistinct && entry.1.2 != .null
  (distinct.reverse.find? fun entry => t.rows.any (t.hasValue entry.2 entry.1.2)).map
    fun entry => entry.1.1

/-- Refuses a row that repeats a value in a column of distinct values. -/
def Table.checkDistinct (t : Table) (row : Row) : Except Fault Unit :=
  match t.repeated? row with
  | some c => .error (if c.isKey then .keyTaken t.name c.name else .valueTaken t.name c.name)
  | none => .ok ()

/-- Every value by which a row refers to others is found among some rows. -/
def Table.findsAll (t : Table) (rows : List Row) (row : Row) : Bool :=
  t.references.all fun (reference, index) =>
    match row[index]?, t.target? reference with
    | some value, some target => value == .null || rows.any (t.hasValue target value)
    | _, _ => true

/-- Puts a row at the end of a table.  The row may refer to itself. -/
def Table.insert (t : Table) (row : Row) : Except Fault Table := do
  t.checkTargets
  let row := t.stored row
  t.checkNulls t.columns row
  t.checkDistinct row
  if t.findsAll (row :: t.rows.toList) row then return { t with rows := t.rows.push row }
  else .error (.valueNotFound t.name)

/-- Puts a row at the end of a table.  A row with a null where none is allowed, or with a value that
is there, is left out. -/
def Table.insertOrIgnore (t : Table) (row : Row) : Except Fault Table :=
  match t.insert row with
  | .ok t => .ok t
  | .error fault => if fault.isIgnored then .ok t else .error fault

/-- The table without the rows that have a value in a column. -/
def Table.without (t : Table) (index : Nat) (value : Value) : Table :=
  { t with rows := t.rows.filter fun row => !t.hasValue index value row }

/-- Takes out the rows that have a value in a column.  A row that others refer to stays. -/
def Table.delete (t : Table) (index : Nat) (value : Value) : Except Fault Table := do
  t.checkTargets
  let left := t.without index value
  let strands (row : Row) : Bool :=
    t.findsAll t.rows.toList row && !t.findsAll left.rows.toList row
  if left.rows.any strands then .error (.valueNotFound t.name) else return left

/-- Puts rows at the end of a table, one after the other. -/
def Table.insertAll (t : Table) : List Row → Except Fault Table
  | [] => .ok t
  | row :: rest => do (← t.insert row).insertAll rest

/-- The database with a table in place of the one of its name. -/
def putTable (db : Database) (t : Table) : Database :=
  { db with tables := db.tables.map fun u => if sameName u.name t.name then t else u }

/-- Puts rows at the end of the table of a name. -/
def insertAll (db : Database) (name : String) (rows : List Row) : Except Fault Database :=
  match db.table? name, db.view? name with
  | some t, _ => do return db.putTable (← t.insertAll rows)
  | none, some v => .error (.viewNotWritten v.name)
  | none, none => .error (.noSuchTable name)

/-! ### Views and indexes -/

/-- Creates a view of a single row. -/
def createView (db : Database) (name : String) : Except Fault Database := do
  let definition := "CREATE VIEW " ++ Statement.quoteName name ++ " AS SELECT 1 AS one"
  db.checkNewName name definition 12
  return { db with views := db.views ++ [⟨name, definition⟩] }

/-- Creates an index of the registry. -/
def createIndex (db : Database) (name : String) : Except Fault Database := do
  let definition :=
    "CREATE INDEX " ++ Statement.quoteName name ++ " ON " ++ registryTable ++ " (url)"
  checkQuoted name definition 13
  match db.table? registryTable, db.view? registryTable with
  | none, none => .error (.noSuchTable ("main." ++ registryTable))
  | none, some _ => .error .viewNotIndexed
  | some t, _ =>
    if isInternalName name then .error (.reservedObject name)
    else if (db.table? name).isSome || (db.view? name).isSome then .error (.tableTakesName name)
    else if (db.index? name).isSome then .error (.indexExists name)
    else return { db with indexes := db.indexes ++ [⟨name, t.name, definition⟩] }

end Database
end DatasetSync
