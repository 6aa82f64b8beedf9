/-
Transactions: work on a database that can still be taken back.

While a transaction is under way each statement works on what the ones before it
left, and a refused statement leaves that as it is.  The transaction keeps the
database of its beginning beside the one it works on.  If the work comes out well,
its changes are kept; if it fails, however far it came, the database is again the
one of the beginning.
-/
import DatasetSync.Database.Basic

namespace DatasetSync.Database

/-- A statement: what it makes of a database, or why it is refused. -/
abbrev Change := Database → Except Failure Database

/-- A transaction under way. -/
structure Transaction where
  /-- The database of its beginning. -/
  before : Database
  /-- The database as the statements have left it so far. -/
  current : Database
deriving DecidableEq, Repr

namespace Transaction

/-- Begins a transaction. -/
def start (db : Database) : Transaction :=
  ⟨db, db⟩

/-- Runs statements one after the other, up to the first that is refused. -/
def run (tx : Transaction) : List Change → Except Failure Unit × Transaction
  | [] => (.ok (), tx)
  | change :: rest =>
    match change tx.current with
    | .error failure => (.error failure, tx)
    | .ok db => run { tx with current := db } rest

/-- Ends a transaction: the changes are kept if its work came out well, otherwise taken back. -/
def finish {α : Type} (tx : Transaction) : Except Failure α → Database
  | .ok _ => tx.current
  | .error _ => tx.before

end Transaction
end DatasetSync.Database
