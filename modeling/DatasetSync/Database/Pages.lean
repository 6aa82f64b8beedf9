/-
Databases as pages of a file.

A database file is cut into pages of one size.  The rows of a table are the leaves of a
tree of pages, in which a page at a branch names the pages below it.  Each row is a
record: the types of its values, then the values.  What does not fit on its page goes on
in a chain of others.  The first page is the root of a table of all objects, which has
the statement that created each of them and the root of its own tree.

Read are tables with the texts and numbers in them, views, plain indexes, and the empty
virtual tables of two modules for searching texts.  A file with anything else in it is
not taken for a database.
-/
import DatasetSync.Database.Definition

namespace DatasetSync.Database.Pages

abbrev Bytes := Array UInt8

/-! ### Numbers -/

def byte (bytes : Bytes) (place : Nat) : Nat :=
  (bytes.getD place 0).toNat

/-- The number in some bytes, the highest first. -/
def number (bytes : Bytes) (place size : Nat) : Nat :=
  (List.range size).foldl (fun n i => n * 256 + byte bytes (place + i)) 0

/-- The number in bytes of seven bits each, with a mark on all but the last, and the place behind
it.  Behind `left` marked bytes there is one of eight bits. -/
def varintFrom (bytes : Bytes) (n place : Nat) : (left : Nat) → Nat × Nat
  | 0 => (n * 256 + byte bytes place, place + 1)
  | left + 1 =>
    let b := byte bytes place
    if b < 128 then (n * 128 + b, place + 1)
    else varintFrom bytes (n * 128 + (b - 128)) (place + 1) left

def varint (bytes : Bytes) (place : Nat) : Nat × Nat :=
  varintFrom bytes 0 place 8

/-- A number of some bytes, as one with a sign. -/
def signed (size n : Nat) : Int :=
  if n < 1 <<< (8 * size - 1) then n else n - (1 <<< (8 * size) : Nat)

def slice (bytes : Bytes) (place size : Nat) : List UInt8 :=
  (bytes.extract place (place + size)).toList

/-! ### Records -/

/-- The number of bytes of a value of a type. -/
def sizeOf (type : Nat) : Nat :=
  if type < 12 then [0, 1, 2, 3, 4, 6, 8, 8].getD type 0 else (type - 12) / 2

/-- The value of a type that stands at a place.  Bytes without a meaning are no value. -/
def value? (record : Bytes) (place type : Nat) : Option Value :=
  let size := sizeOf type
  if type = 0 then some .null
  else if type < 7 then some (.integer (signed size (number record place size)))
  else if type = 7 then some (.real ⟨(number record place size).toUInt64⟩)
  else if type < 10 then some (.integer (type - 8))
  else if type % 2 = 1 then (Text.Utf8.decode? (slice record place size)).map .text
  else none

/-- The types that stand between two places. -/
def types (record : Bytes) (place stop : Nat) : (left : Nat) → List Nat
  | 0 => []
  | left + 1 =>
    if stop ≤ place then []
    else
      let (type, next) := varint record place
      type :: types record next stop left

def valuesFrom? (record : Bytes) (place : Nat) : List Nat → Option Row
  | [] => some []
  | type :: rest => do
    return (← value? record place type) :: (← valuesFrom? record (place + sizeOf type) rest)

/-- The values of a record. -/
def values? (record : Bytes) : Option Row :=
  let (stop, place) := varint record 0
  valuesFrom? record stop (types record place stop stop)

/-! ### Trees -/

/-- A file with its pages. -/
structure Paged where
  bytes : Bytes
  pageSize : Nat
  /-- The number of bytes of a page that hold content. -/
  usable : Nat

namespace Paged

variable (file : Paged)

/-- The place at which a page begins.  The first page has the number 1. -/
def start (page : Nat) : Nat :=
  (page - 1) * file.pageSize

/-- The bytes that go on at a page and in the chain behind it. -/
def chain (page size : Nat) : (left : Nat) → List UInt8
  | 0 => []
  | left + 1 =>
    let here := min size (file.usable - 4)
    if size = 0 then []
    else slice file.bytes (file.start page + 4) here ++
      chain (number file.bytes (file.start page) 4) (size - here) left

/-- How many bytes of a record stand on its own page. -/
def localSize (size : Nat) : Nat :=
  let most := file.usable - 35
  let least := (file.usable - 12) * 32 / 255 - 23
  let fitting := least + (size - least) % (file.usable - 4)
  if size ≤ most then size else if fitting ≤ most then fitting else least

/-- The row at a place of a leaf: its number and its record. -/
def row (place : Nat) : Nat × Bytes :=
  let (size, place) := varint file.bytes place
  let (rowNumber, place) := varint file.bytes place
  let here := file.localSize size
  let rest := file.chain (number file.bytes (place + here) 4) (size - here) file.bytes.size
  (rowNumber, (slice file.bytes place here ++ rest).toArray)

/-- The rows of the tree below a page, which has no more than some number of levels. -/
def rows? : (levels page : Nat) → Option (List (Nat × Bytes))
  | 0, _ => none
  | levels + 1, page =>
    -- The first page begins with the header of the file.
    let head := file.start page + if page = 1 then 100 else 0
    let count := number file.bytes (head + 3) 2
    let places (first : Nat) : List Nat := (List.range count).map fun i =>
      file.start page + number file.bytes (head + first + 2 * i) 2
    match byte file.bytes head with
    | 13 => some ((places 8).map file.row)
    | 5 => do
      let below := (places 12).map (number file.bytes · 4) ++ [number file.bytes (head + 8) 4]
      return (← below.mapM (rows? levels)).flatten
    | _ => none

/-! ### Objects -/

/-- A row of a table from the values in its record.  The key that counts the rows is not among
these, and a column that was added later may be missing. -/
def rowOf (columns : List ColumnDef) (rowNumber : Nat) (values : Row) : Row :=
  columns.zipIdx.map fun (c, i) =>
    if c.isRowNumber then .integer (signed 8 rowNumber)
    else
      match Affinity.ofDeclared c.declared, values.getD i c.preset with
      | .real, v => asReal v
      | _, v => v

/-- The table that a statement created, with the rows of a tree. -/
def table? (name definition : String) (root : Nat) : Option Table := do
  let pieces := (tokens definition).dropWhile (· ≠ .opening)
  if pieces.getLast? ≠ some .closing then none
  let columns := columnsOf name (pieces.drop 1).dropLast
  let rows ← (← file.rows? 32 root).mapM fun (rowNumber, record) =>
    (values? record).map (rowOf columns rowNumber)
  return { name, columns, definition, rows := rows.toArray }

/-- The virtual table that a statement created, if it is one for searching texts. -/
def virtualTable? (name definition : String) : Option Table := do
  let pieces := tokens definition
  if (pieces.map Token.keyword).all (· ∉ ["fts3", "fts4"]) then none
  let parts := partsFrom 0 [] ((pieces.dropWhile (· ≠ .opening)).drop 1).dropLast
  let isOption (part : List Token) : Bool := part.any fun token => token.text.contains '='
  let columns := (parts.filter fun part => !isOption part).filterMap List.head?
  return { name, definition
           columns := columns.map fun token => { name := token.text, declared := "" }
           shadows := ["content", "segments", "segdir", "docsize", "stat"].map (name ++ "_" ++ ·) }

/-- Takes in an object. -/
def take? (db : Database) : Row → Option Database
  | [.text "table", .text name, _, .integer root, .text definition] => do
    let t ← if root = 0 then virtualTable? name definition
      else file.table? name definition root.toNat
    return { db with tables := db.tables ++ [t] }
  | [.text "view", .text name, _, _, .text definition] =>
    some { db with views := db.views ++ [⟨name, definition⟩] }
  | [.text "index", .text name, .text table, _, .text definition] =>
    if ((tokens definition).map Token.keyword)[1]? = some "unique" then none
    else some { db with indexes := db.indexes ++ [⟨name, table, definition⟩] }
  -- An index that the database keeps for a column has no statement.
  | [.text "index", _, _, _, .null] => some db
  | _ => none

end Paged

/-! ### Files -/

/-- What every database file begins with. -/
def mark : List UInt8 :=
  Text.Utf8.encode "SQLite format 3\x00"

/-- The database in a file, or nothing if the file holds something else. -/
def read? (content : List UInt8) : Option Database := do
  let bytes := content.toArray
  let pageSize := match number bytes 16 2 with
    | 1 => 65536
    | size => size
  let isUtf8 := number bytes 56 4 ≤ 1
  if !mark.isPrefixOf content || pageSize < 512 || !isUtf8 then none
  let file : Paged := ⟨bytes, pageSize, pageSize - byte bytes 20⟩
  let journal := if byte bytes 18 = 2 then Journal.writeAhead else .delete
  (← (← file.rows? 32 1).mapM fun entry => values? entry.2).foldlM file.take? { journal }

end DatasetSync.Database.Pages
