/-
Databases in files.

Opening a database for writing creates the file if it is missing, makes changes go
through a write-ahead journal and sees to it that there is a registry.  Opening
one for reading changes nothing.  An empty file is an empty database; a file whose
bytes are not the pages of one is none, which shows only when it is read.
-/
import DatasetSync.Database.Pages
import DatasetSync.Database.Registry
import DatasetSync.Files.Tree

namespace DatasetSync.Files

open Database (Fault)

/-- The path that stands for a database which is in no file. -/
def inMemory (path : String) : Bool :=
  path.isEmpty || path == ":memory:"

/-- The database in a file, or nothing if the file holds something else. -/
def Content.database? : Content → Option Database
  | .database db => some db
  | .bytes [] => some {}
  | .bytes pages => Database.Pages.read? pages

/-- Makes a database ready for loading. -/
def configure (db : Database) : Except Failure Database :=
  Database.ensureRegistry { db with journal := .writeAhead }

/-- Keeps a database in its file. -/
def keep (files : Files) (path : String) (db : Database) : Files :=
  if inMemory path then files
  else (files.writeContent path (.database db)).toOption.getD files

/-- Opens a database for writing. -/
def openForWriting (files : Files) (path : String) : Except Failure Database :=
  let refused : Except Failure Database :=
    .error ⟨[.openingDatabase path], .database (.cannotOpen path)⟩
  if inMemory path then configure {}
  else
    match files.locate path with
    | .error _ => refused
    | .ok place =>
      match files.node? place with
      | none => configure {}
      | some .directory => refused
      | some (.file content) =>
        match content.database? with
        | some db => configure db
        | none => .error ⟨[.configuringDatabase], .database .notADatabase⟩

/-- Opens a database for reading; the content of the file is not looked at yet. -/
def openForReading (files : Files) (path : String) : Except Failure Content :=
  match files.find path with
  | .ok (.file content) => .ok content
  | _ => .error ⟨[.openingDatabase path], .database (.cannotOpen path)⟩

/-- The database in a file opened for reading, as far as the table of a name is to be looked up in
it. -/
def contentFor (table : String) (content : Content) : Except Failure Database :=
  match content.database? with
  | some db => .ok db
  | none => .error ⟨[.lookingUpTable table], .database .notADatabase⟩

/-- What a database in a file says about its sources. -/
def contentStatus (content : Content) : Except Failure (List Database.Status) := do
  (← contentFor registryTable content).status

end DatasetSync.Files
