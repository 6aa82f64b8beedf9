/-
Loading a dataset into a table.

A load is one transaction: the source is recorded, its table created, and the
rows inserted, a thousand at a time with a notice after each batch.  When it
replaces an older table, that one is dropped and taken out of the registry first.
A step that is refused ends the load in the middle of its work, and the
transaction takes back what the steps before it have done.
-/
import DatasetSync.Database.Registry
import DatasetSync.Database.Transaction
import DatasetSync.Notice

namespace DatasetSync.Database

/-- How many rows are inserted between two notices. -/
def batchSize : Nat := 1000

/-- The rows in batches, the last of which may be smaller. -/
def batches {α : Type} (rows : List α) : List (List α) :=
  if rows.isEmpty then []
  else rows.take batchSize :: batches (rows.drop batchSize)
termination_by rows.length
decreasing_by
  rename_i h
  have := List.length_pos_iff.2 (show rows ≠ [] by simpa using h)
  simp only [List.length_drop, batchSize]
  omega

/-- The values of a row, one for each column of a schema.  Cells past the last column are left
out; a missing one is a failure. -/
def rowValues (columns : List Column) (row : List (Option String)) : Except Failure Row :=
  if row.length < columns.length then failWith (.rowTooShort row.length columns.length)
  else .ok (List.zipWith (fun c cell => Value.ofCell c.type cell) columns row)

/-- Inserts one row of cells. -/
def insertRow (s : Schema) (t : Table) (row : List (Option String)) : Except Failure Table := do
  let values ← rowValues s.columns row
  (t.insert values).mapError fun fault => ⟨[.insertingRows s.name], .database fault⟩

/-- Inserts rows one after the other.  A row that is refused ends it; those before it are in the
table. -/
def insertRows (s : Schema) (t : Table) :
    List (List (Option String)) → Except Failure Unit × Table
  | [] => (.ok (), t)
  | row :: rest =>
    match insertRow s t row with
    | .error failure => (.error failure, t)
    | .ok t => insertRows s t rest

/-- Inserts batches after `done` of `total` rows, with a notice after each, and counts the rows. -/
def insertBatches (s : Schema) (total done : Nat) (t : Table) :
    List (List (List (Option String))) → Except Failure Nat × Table × List Event
  | [] => (.ok done, t, [])
  | batch :: rest =>
    match insertRows s t batch with
    | (.error failure, t) => (.error failure, t, [])
    | (.ok (), t) =>
      let done := done + batch.length
      let (result, t, events) := insertBatches s total done t rest
      (result, t, .notice (.progress ⟨done, total, s.name⟩) :: events)

/-- The statements before the rows: an older table is dropped and taken out of the registry, if it
is to be replaced; the source is recorded and its table created. -/
def preparations (source : Source) (s : Schema) (replace : Bool) : List Change :=
  let drop : Change := fun db =>
    (db.dropTable true s.name).mapError fun fault => ⟨[.droppingTable s.name], .database fault⟩
  let create : Change := fun db =>
    (db.createTable s).mapError fun fault => ⟨[.creatingTable s.name], .database fault⟩
  (if replace then [drop, fun db => db.unregister s.name] else []) ++
    [fun db => db.register source, create]

/-- Puts the rows of a dataset into the table of a schema and counts them. -/
def Transaction.fill (tx : Transaction) (s : Schema) (d : Dataset) :
    Except Failure Nat × Transaction × List Event :=
  match tx.current.table? s.name with
  | none => (.error ⟨[.insertingRows s.name], .database (.noSuchTable s.name)⟩, tx, [])
  | some t =>
    let (result, t, events) := insertBatches s d.rowCount 0 t (batches d.rows)
    (result, { tx with current := tx.current.putTable t }, events)

/-- The work of a load, as far as it comes. -/
def Transaction.work (tx : Transaction) (source : Source) (s : Schema) (d : Dataset)
    (replace : Bool) : Except Failure Nat × Transaction × List Event :=
  match tx.run (preparations source s replace) with
  | (.error failure, tx) => (.error failure, tx, [])
  | (.ok (), tx) => tx.fill s d

/-- What a load leaves. -/
structure Load where
  /-- The number of rows that were inserted, or why nothing was loaded. -/
  result : Except Failure Nat
  database : Database
  events : List Event

/-- Loads a dataset into the table of a schema and records where it came from. -/
def load (db : Database) (source : Source) (s : Schema) (d : Dataset) (replace : Bool) : Load :=
  let definition := Event.log .debug .database (Statement.createTable s)
  let (result, tx, events) := (Transaction.start db).work source s d replace
  ⟨result, tx.finish result, definition :: events⟩

end DatasetSync.Database
