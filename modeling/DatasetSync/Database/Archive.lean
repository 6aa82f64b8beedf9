/-
Databases as bytes.

An archive lists what a database holds, one record after the other, as
comma-separated text with every field in quotes: how changes are made, then each
table with its columns and rows behind it, then views and indexes.  The first
letter of a value's field says of which kind it is, and so does that of a reference.
-/
import DatasetSync.Csv.Record
import DatasetSync.Database.Basic

namespace DatasetSync.Database.Archive

/-! ### Writing -/

/-- The first field of every archive. -/
def mark : String := "dataset archive"

/-- A value as a field. -/
def valueField : Value → String
  | .null => "n"
  | .integer n => "i" ++ toString n
  | .real x => "r" ++ toString x.code
  | .text s => "t" ++ s

def flagField (flag : Bool) : String :=
  if flag then "1" else "0"

def journalField : Journal → String
  | .delete => "delete"
  | .writeAhead => "wal"

def collationField : Collation → String
  | .binary => "binary"
  | .nocase => "nocase"
  | .rtrim => "rtrim"

def referenceField : Option Reference → String
  | none => "n"
  | some .key => "k"
  | some (.column name) => "c" ++ name

/-- The record of a column. -/
def columnRecord (c : ColumnDef) : List String :=
  ["column", c.name, c.declared, flagField c.notNull, flagField c.isKey, flagField c.isUnique,
    collationField c.collation, valueField c.preset, referenceField c.refersTo]

/-- The records of a table. -/
def tableRecords (t : Table) : List (List String) :=
  ("table" :: t.name :: t.definition :: t.shadows) ::
    t.columns.map columnRecord ++ t.rows.toList.map fun row => "row" :: row.map valueField

/-- The records of a database. -/
def records (db : Database) : List (List String) :=
  [mark, journalField db.journal] :: db.tables.flatMap tableRecords ++
    db.views.map (fun v => ["view", v.name, v.definition]) ++
    db.indexes.map fun i => ["index", i.name, i.table, i.definition]

/-- The archive of a database. -/
def write (db : Database) : List UInt8 :=
  let line (record : List String) : String :=
    ",".intercalate (record.map Statement.quoteName) ++ "\n"
  Text.Utf8.encode (String.join ((records db).map line))

/-! ### Reading -/

/-- The value of a field. -/
def value? (field : String) : Option Value :=
  let rest := (field.drop 1).toString
  match field.toList.head? with
  | some 'n' => some .null
  | some 'i' => rest.toInt?.map .integer
  | some 'r' => rest.toNat?.map fun code => .real ⟨code.toUInt64⟩
  | some 't' => some (.text rest)
  | _ => none

/-- The reference of a field. -/
def reference? (field : String) : Option (Option Reference) :=
  match field.toList.head? with
  | some 'n' => some none
  | some 'k' => some (some .key)
  | some 'c' => some (some (.column (field.drop 1).toString))
  | _ => none

/-- The column of a record, by the fields behind its first. -/
def column? : List String → Option ColumnDef
  | [name, declared, notNull, key, isUnique, collation, preset, reference] => do
    return { name, declared, notNull := notNull == "1", isKey := key == "1"
             isUnique := isUnique == "1", preset := ← value? preset
             collation := ← [.binary, .nocase, .rtrim].find? fun c => collationField c == collation
             refersTo := ← reference? reference }
  | _ => none

/-- Takes in one record.  Columns and rows belong to the table listed last; `tables` holds the
newest first. -/
def take (db : Database) (record : List String) : Option Database :=
  match record, db.tables with
  | "table" :: name :: definition :: shadows, tables =>
    some { db with tables := { name, columns := [], definition, shadows } :: tables }
  | "column" :: fields, t :: tables =>
    (column? fields).map fun column =>
      { db with tables := { t with columns := t.columns ++ [column] } :: tables }
  | "row" :: fields, t :: tables =>
    (fields.mapM value?).map fun row =>
      { db with tables := { t with rows := t.rows.push row } :: tables }
  | ["view", name, definition], _ => some { db with views := db.views ++ [⟨name, definition⟩] }
  | ["index", name, table, definition], _ =>
    some { db with indexes := db.indexes ++ [⟨name, table, definition⟩] }
  | _, _ => none

/-- The database in an archive, or nothing if the bytes are none. -/
def read? (bytes : List UInt8) : Option Database := do
  if !(Text.Utf8.encode (Statement.quoteName mark)).isPrefixOf bytes then none
  let texts ← (Csv.records bytes).mapM fun record => record.fields.mapM Text.Utf8.decode?
  let (first, rest) ← match texts with
    | [] => none
    | first :: rest => some (first, rest)
  let ahead := first[1]? == some (journalField .writeAhead)
  let db ← rest.foldlM take { journal := if ahead then .writeAhead else .delete }
  return { db with tables := db.tables.reverse }

end DatasetSync.Database.Archive
