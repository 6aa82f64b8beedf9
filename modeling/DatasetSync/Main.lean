/-
The program on a disk.

The files that the command names are read into a tree, the command is run on the
tree, and what it changed is written back.  A database is kept in its file as an
archive.  There is no network here, so a source is only fetched from the cache or
from local files, and a terminal is shown the dashboard once, at the end.
-/
import DatasetSync.Database.Archive
import DatasetSync.Program

namespace DatasetSync.OnDisk

/-- The path on the disk of a place in the tree. -/
def pathOf (place : Files.Place) : String :=
  "/" ++ "/".intercalate place

/-- What a file with these bytes holds. -/
def contentOf (bytes : List UInt8) : Files.Content :=
  match Database.Archive.read? bytes with
  | some db => .database db
  | none => .bytes bytes

/-- The bytes of a file with this content. -/
def bytesOf : Files.Content → List UInt8
  | .bytes bytes => bytes
  | .database db => Database.Archive.write db

/-- Reads what stands at a place of the disk into the tree. -/
def readPlace (files : Files) (place : Files.Place) : IO Files := do
  let path := (← IO.currentDir) / pathOf place
  if ← path.isDir then return files.put place .directory
  else if ← path.pathExists then
    return files.put place (.file (contentOf (← IO.FS.readBinFile path).toList))
  else return files

/-- Reads into the tree what a path names, the directories on the way, and the entries of a
directory. -/
def readPath (files : Files) (path : String) : IO Files := do
  let some (start, parts) := files.begin? path | return files
  let mut files := files
  let mut place := start
  for part in parts do
    if part = ".." then place := place.dropLast
    else if part ≠ "" ∧ part ≠ "." then
      place := place ++ [part]
      files ← readPlace files place
  let directory := (← IO.currentDir) / pathOf place
  if ← directory.isDir then
    for entry in ← directory.readDir do
      files ← readPlace files (place ++ [entry.fileName])
  return files

/-- Writes to the disk what is new or changed, and removes what is gone. -/
def writeBack (before after : Files) : IO Unit := do
  for (place, node) in after.entries do
    if before.node? place ≠ some node then
      match node with
      | .directory => IO.FS.createDirAll (pathOf place)
      | .file content => IO.FS.writeBinFile (pathOf place) ⟨(bytesOf content).toArray⟩
  for (place, _) in before.entries do
    if (after.node? place).isNone then IO.FS.removeFile (pathOf place)

/-- The environment variables that mean something to the program. -/
def environmentNames : List String :=
  ["HOME", "XDG_CACHE_HOME", "POKEDEX_DB", "POKEDEX_CACHE_DIR", "RUST_LOG"]

def readEnvironment : IO (List (String × String)) :=
  environmentNames.filterMapM fun name => do return (← IO.getEnv name).map (name, ·)

/-- Shows what a run of the program leaves. -/
def showExit (exit : Exit) : IO Unit := do
  IO.print exit.printed
  if let some dashboard := exit.showing.bind Showing.last then
    for line in (dashboard.draw 80 24).shownLines do
      IO.println line
  for line in exit.log do
    IO.eprintln line.text
  if let some failure := exit.failure then
    IO.eprintln ("Error: " ++ failure.report)
  if let some fault := exit.usage then
    if fault.exitCode = 0 then IO.println fault.message else IO.eprintln fault.message

/-- Runs the program on the disk. -/
def run (args : List String) : IO Nat := do
  let environment ← readEnvironment
  let here := (Path.parts (← IO.currentDir).toString).filter (· ≠ "")
  let terminal := if ← (← IO.getStdout).isTty then some [] else none
  let paths := match CommandLine.read environment args with
    | .ok invocation => invocation.command.paths environment
    | .error _ => []
  let files ← (pathOf here :: paths).foldlM readPath ({ here } : Files)
  let exit := runProgram Network.offline () args { files, environment, terminal }
  writeBack files exit.files
  showExit exit
  return exit.code

end DatasetSync.OnDisk

/-- The program. -/
def main (args : List String) : IO UInt32 := do
  return (← DatasetSync.OnDisk.run args).toUInt32
