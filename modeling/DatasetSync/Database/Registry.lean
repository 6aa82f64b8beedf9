/-
The registry: which datasets were loaded, and from where.

The registry is a table of the database itself, with a row for each dataset: the
name of its table and the address it was fetched from.  A name is recorded once;
recording it again keeps the first address.  Names are compared letter by letter
here, while the database compares names of tables without regard to case.

A database may come with a registry that somebody else has created.  Then the
conditions and the collations of its columns are the ones that count.
-/
import DatasetSync.Database.Basic

namespace DatasetSync.Database

open Text (sameName)

/-- The column of the registry that holds the names. -/
def nameColumn : String := "table_name"

/-- The column of the registry that holds the addresses. -/
def urlColumn : String := "url"

/-- The statement that the registry is stored with. -/
def registryDefinition : String :=
  "CREATE TABLE data_sources (\n    table_name VARCHAR PRIMARY KEY NOT NULL,\n" ++
    "    url VARCHAR NOT NULL\n)"

/-- The empty registry. -/
def emptyRegistry : Table :=
  { name := registryTable
    columns := [
      { name := nameColumn, declared := "VARCHAR", notNull := true, isKey := true },
      { name := urlColumn, declared := "VARCHAR", notNull := true }]
    definition := registryDefinition }

/-- Creates the registry if it is missing. -/
def ensureRegistry (db : Database) : Except Failure Database :=
  if db.hasTable registryTable || (db.view? registryTable).isSome then .ok db
  else if (db.index? registryTable).isSome then
    .error ⟨[.creatingRegistry], .database (.indexTakesName registryTable)⟩
  else .ok { db with tables := db.tables ++ [emptyRegistry] }

/-- The registry's row for a source: its other columns, if it has any, are given nothing. -/
def Table.registryRow (t : Table) (source : Source) : Row :=
  t.columns.map fun c =>
    if sameName c.name nameColumn then .text source.name
    else if sameName c.name urlColumn then .text source.url
    else c.preset

/-- The registry as a table that can be written, with both its columns. -/
def writableRegistry (db : Database) : Except Fault Table :=
  match db.table? registryTable, db.view? registryTable with
  | some t, _ =>
    if !t.hasColumn nameColumn then .error (.unknownColumn registryTable nameColumn)
    else if !t.hasColumn urlColumn then .error (.unknownColumn registryTable urlColumn)
    else .ok t
  | none, some v => .error (.viewNotWritten v.name)
  | none, none => .error (.noSuchTable registryTable)

/-- Records a source.  A name that is recorded already keeps its address. -/
def register (db : Database) (source : Source) : Except Failure Database :=
  let recorded : Except Fault Database := do
    let t ← db.writableRegistry
    return db.putTable (← t.insertOrIgnore (t.registryRow source))
  recorded.mapError fun fault => ⟨[.registering source.name], .database fault⟩

/-- The statement that takes a name out of the registry. -/
def unregisterStatement : String := "DELETE FROM data_sources WHERE table_name = ?1"

/-- The registry without a name. -/
def withoutRecord (db : Database) (name : String) : Except Fault Database :=
  match db.table? registryTable, db.view? registryTable with
  | some t, _ =>
    match t.columnIndex? nameColumn with
    | some index => do return db.putTable (← t.delete index (.text name))
    | none => .error (.noSuchColumn nameColumn ⟨unregisterStatement, 31⟩)
  | none, some v => .error (.viewNotWritten v.name)
  | none, none => .error (.noSuchTable registryTable)

/-- Takes a name out of the registry. -/
def unregister (db : Database) (name : String) : Except Failure Database :=
  (db.withoutRecord name).mapError fun fault => ⟨[.unregistering name], .database fault⟩

/-- The statement that lists the registry. -/
def registeredStatement : String := "SELECT table_name, url FROM data_sources ORDER BY table_name"

/-- The order of values: nulls, then numbers, then texts letter by letter. -/
def valueRank : Value → Nat
  | .null => 0
  | .integer _ => 1
  | .real _ => 1
  | .text _ => 2

/-- The first value comes no later than the second. -/
def valueLe (a b : Value) : Bool :=
  match a, b with
  | .text s, .text t => !(t < s)
  | .integer m, .integer n => m ≤ n
  | _, _ => valueRank a ≤ valueRank b

/-- A value that is read as a text. -/
def readText (index : Nat) (column : String) : Value → Except Fault String
  | .text s => .ok s
  | .null => .error (.columnType "Null" index column)
  | .integer _ => .error (.columnType "Integer" index column)
  | .real _ => .error (.columnType "Real" index column)

/-- The source that a name and an address from the registry make. -/
def readSource (entry : Value × Value) : Except Fault Source := do
  return ⟨← readText 0 nameColumn entry.1, ← readText 1 urlColumn entry.2⟩

/-- The values of two columns in all rows, in the order of the first. -/
def Table.sortedPairs (t : Table) (first second : Nat) : List (Value × Value) :=
  let collation := (t.columns[first]?.map ColumnDef.collation).getD .binary
  let pairs := t.rows.toList.map fun row => (row.getD first .null, row.getD second .null)
  pairs.mergeSort fun a b => valueLe (collation.key a.1) (collation.key b.1)

/-- The names and addresses in the registry, ordered by name. -/
def registryEntries (db : Database) : Except Fault (List (Value × Value)) :=
  match db.table? registryTable, db.view? registryTable with
  | some t, _ =>
    match t.columnIndex? nameColumn, t.columnIndex? urlColumn with
    | some name, some url => .ok (t.sortedPairs name url)
    | none, _ => .error (.noSuchColumn nameColumn ⟨registeredStatement, 7⟩)
    | some _, none => .error (.noSuchColumn urlColumn ⟨registeredStatement, 19⟩)
  | none, some _ => .error (.noSuchColumn nameColumn ⟨registeredStatement, 7⟩)
  | none, none => .error (.noSuchTable registryTable)

/-- All recorded sources, ordered by name. -/
def registered (db : Database) : Except Failure (List Source) := do
  let entries ← db.registryEntries.mapError fun fault => ⟨[], .database fault⟩
  (entries.mapM readSource).mapError fun fault => ⟨[.readingRegistry], .database fault⟩

/-- A recorded source and the state of its table. -/
structure Status where
  source : Source
  /-- The number of rows; nothing when the table is missing. -/
  rows : Option Nat
deriving DecidableEq, Repr

/-- The state of the table of a source. -/
def statusOf (db : Database) (source : Source) : Except Failure Status :=
  if db.hasTable source.name then
    match db.rowCount source.name with
    | .ok n => .ok ⟨source, some n⟩
    | .error fault => .error ⟨[.countingRows source.name], .database fault⟩
  else .ok ⟨source, none⟩

/-- Every recorded source with the state of its table.  A database without a registry has none. -/
def status (db : Database) : Except Failure (List Status) := do
  if db.hasTable registryTable then (← db.registered).mapM db.statusOf else return []

end DatasetSync.Database
