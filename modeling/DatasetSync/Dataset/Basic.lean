/-
Datasets: named columns and rows of cells.

A payload is read record by record.  The first record gives the names of the
columns; each later one gives a row.  A row may be shorter than the header, then
its last cells are missing, but not longer.  A record that is a single blank
field is an empty line of the file, unless there is only one column, where it is
a row with a missing cell.

Some texts stand for "no value"; a cell that is one of them, apart from blanks
around it, is missing.  Every other cell is kept letter by letter.
-/
import DatasetSync.Csv.Record
import DatasetSync.Dataset.Header
import DatasetSync.Failure
import DatasetSync.Text.Utf8

namespace DatasetSync

/-- A parsed payload.  A missing cell is `none`. -/
structure Dataset where
  columns : List String
  rows : List (List (Option String))
deriving DecidableEq, Repr

namespace Dataset

/-- The texts that stand for a missing value. -/
def missingTokens : List String :=
  ["", "#N/A", "#N/A N/A", "#NA", "-1.#IND", "-1.#QNAN", "-NaN", "-nan", "1.#IND", "1.#QNAN",
    "<NA>", "N/A", "NA", "NULL", "NaN", "None", "n/a", "nan", "null"]

/-- The cell stands for a missing value. -/
def isMissing (cell : String) : Bool :=
  missingTokens.contains (Text.trim cell)

/-- The value of a field. -/
def cellOf (field : String) : Option String :=
  if isMissing field then none else some field

/-- Fills a row with missing cells up to `width`. -/
def pad (width : Nat) (row : List (Option String)) : List (Option String) :=
  row ++ List.replicate (width - row.length) none

/-- The fields of a record as texts, or the first that is none: its index and the length of its
valid part. -/
def decodeFields (index : Nat) : List (List UInt8) → Except (Nat × Nat) (List String)
  | [] => .ok []
  | field :: rest =>
    match Text.Utf8.decode field with
    | .error valid => .error (index, valid)
    | .ok text => (decodeFields (index + 1) rest).map (text :: ·)

/-- The fields of the record that has `index` records before it. -/
def fieldsOf (index : Nat) (record : Csv.Record) : Except Failure (List String) :=
  match decodeFields 0 record.fields with
  | .ok texts => .ok texts
  | .error (field, valid) =>
    failWith (.undecodable ⟨index, record.start.line, field, record.start.byte, valid⟩)

/-- The record is an empty line of a file with several columns. -/
def isEmptyLine (width : Nat) (fields : List String) : Bool :=
  match fields with
  | [field] => Text.allBlank field && 1 < width
  | _ => false

/-- The row that a record gives, if any. -/
def rowOf (width index : Nat) (record : Csv.Record) :
    Except Failure (Option (List (Option String))) := do
  let fields ← during .readingRecord (fieldsOf index record)
  if isEmptyLine width fields then return none
  if width < fields.length then failWith (.raggedRow record.start.line width fields.length)
  return some (pad width (fields.map cellOf))

/-- The rows that records give, the first of which has `index` records before it; `done` holds those
before, the newest first. -/
def rowsFrom (width index : Nat) (done : List (List (Option String))) :
    List Csv.Record → Except Failure (List (List (Option String)))
  | [] => .ok done.reverse
  | record :: rest =>
    match rowOf width index record with
    | .error failure => .error failure
    | .ok none => rowsFrom width (index + 1) done rest
    | .ok (some row) => rowsFrom width (index + 1) (row :: done) rest

/-- Reads a payload whose first record is the header. -/
def parse (payload : List UInt8) : Except Failure Dataset :=
  match Csv.records (Csv.stripMark payload) with
  | [] => failWith .emptyPayload
  | header :: records => do
    let columns := Header.names (← during .readingHeader (fieldsOf 0 header))
    let rows ← rowsFrom columns.length 1 [] records
    return ⟨columns, rows⟩

def rowCount (d : Dataset) : Nat :=
  d.rows.length

/-- The cells of one column, or nothing if some row has no such cell. -/
def column? (d : Dataset) (index : Nat) : Option (List (Option String)) :=
  d.rows.mapM fun row => row[index]?

/-- The cells of one column; a cell that a row lacks is missing. -/
def column (d : Dataset) (index : Nat) : List (Option String) :=
  d.rows.map fun row => (row[index]?).join

end Dataset
end DatasetSync
