/-
A tree of files and directories.

The tree is kept flat: each entry stands under the names that lead to it from the
top, and the directories on the way are entries too.  Looking up a path goes
through its parts one by one, from the top for an absolute path and from the
working directory for any other; each part on the way has to be a directory that
is there.  Only the last part may be missing, where something is to be created.

A file holds bytes or, if it was written by the database, a database.
-/
import DatasetSync.Database.Basic
import DatasetSync.Files.Fault
import DatasetSync.Files.Path
import DatasetSync.Text.Utf8

namespace DatasetSync

namespace Files

/-- What a file holds. -/
inductive Content
  | bytes (bytes : List UInt8)
  | database (database : Database)
deriving DecidableEq, Repr

/-- What stands at a place of the tree. -/
inductive Node
  | directory
  | file (content : Content)
deriving DecidableEq, Repr

/-- The names that lead from the top of the tree to a place. -/
abbrev Place := List String

end Files

/-- A tree of files and directories. -/
structure Files where
  /-- The path of the top. -/
  root : String := ""
  /-- The working directory. -/
  here : Files.Place := []
  entries : List (Files.Place × Files.Node) := []
deriving DecidableEq, Repr

namespace Files

/-- What stands at a place; the top is always there. -/
def node? (files : Files) (place : Place) : Option Node :=
  if place.isEmpty then some .directory else files.entries.lookup place

/-- Puts a node at a place, over what was there. -/
def put (files : Files) (place : Place) (node : Node) : Files :=
  if (files.entries.lookup place).isSome then
    { files with entries := files.entries.map fun e => if e.1 = place then (place, node) else e }
  else { files with entries := files.entries ++ [(place, node)] }

/-- Takes away what stands at a place and below it. -/
def removeAll (files : Files) (place : Place) : Files :=
  { files with entries := files.entries.filter fun e => !place.isPrefixOf e.1 }

/-! ### Finding the place of a path -/

/-- How long a part of a path can be, in bytes. -/
def maxNameSize : Nat := 255

/-- How long a path can be, in bytes. -/
def maxPathSize : Nat := 4095

/-- Follows the parts of a path from a directory to the place that they lead to.  Every part but the
last has to be there. -/
def walk (files : Files) (here : Place) : List String → Except Fault Place
  | [] => .ok here
  | part :: rest =>
    if part = "" ∨ part = "." then files.walk here rest
    else if part = ".." then files.walk here.dropLast rest
    else if maxNameSize < (Text.Utf8.encode part).length then .error .nameTooLong
    else
      let there := here ++ [part]
      if rest.isEmpty then .ok there
      else
        match files.node? there with
        | none => .error .notFound
        | some (.file _) => .error .notADirectory
        | some .directory => files.walk there rest

/-- Where a path begins, and its parts from there; a path that leads out of the tree has none. -/
def begin? (files : Files) (path : String) : Option (Place × List String) :=
  let root := files.root.toList
  let cs := path.toList
  if cs = root || (root ++ ['/']).isPrefixOf cs then
    some ([], Path.parts (String.ofList (cs.drop root.length)))
  else if Path.isAbsolute path then none
  else some (files.here, Path.parts path)

/-- The place that a path leads to. -/
def locate (files : Files) (path : String) : Except Fault Place :=
  if '\x00' ∈ path.toList then .error .nulInPath
  else if path.isEmpty then .error .notFound
  else if maxPathSize < (Text.Utf8.encode path).length then .error .nameTooLong
  else
    match files.begin? path with
    | none => .error .notFound
    | some (start, parts) => files.walk start parts

/-- What stands at a path. -/
def find (files : Files) (path : String) : Except Fault Node := do
  match files.node? (← files.locate path) with
  | some node => .ok node
  | none => .error .notFound

def isFile (files : Files) (path : String) : Bool :=
  match files.find path with
  | .ok (.file _) => true
  | _ => false

def isDirectory (files : Files) (path : String) : Bool :=
  match files.find path with
  | .ok .directory => true
  | _ => false

/-- Something stands at the path. -/
def present (files : Files) (path : String) : Bool :=
  (files.find path).toOption.isSome

/-! ### Reading and writing -/

/-- How the file of a database begins. -/
def databaseHeader : List UInt8 :=
  Text.Utf8.encode "SQLite format 3\x00"

/-- The bytes of a file. -/
def read (files : Files) (path : String) : Except Fault (List UInt8) := do
  match ← files.find path with
  | .directory => .error .isADirectory
  | .file (.bytes bytes) => .ok bytes
  | .file (.database _) => .ok databaseHeader

/-- The text of a file. -/
def readText (files : Files) (path : String) : Except Fault String := do
  match Text.Utf8.decode (← files.read path) with
  | .ok text => .ok text
  | .error _ => .error .notText

/-- Writes a file, over what it held. -/
def writeContent (files : Files) (path : String) (content : Content) : Except Fault Files := do
  let place ← files.locate path
  match files.node? place with
  | some .directory => .error .isADirectory
  | _ => .ok (files.put place (.file content))

/-- Writes bytes to a file, over what it held. -/
def write (files : Files) (path : String) (bytes : List UInt8) : Except Fault Files :=
  files.writeContent path (.bytes bytes)

/-- Removes a file. -/
def removeFile (files : Files) (path : String) : Except Fault Files := do
  let place ← files.locate path
  match files.node? place with
  | none => .error .notFound
  | some .directory => .error .isADirectory
  | some (.file _) =>
    .ok { files with entries := files.entries.filter fun e => e.1 != place }

/-! ### Directories -/

/-- Creates the directory that parts of a path lead to. -/
def makeDirectory (files : Files) (start : Place) (parts : List String) : Except Fault Files := do
  let place ← files.walk start parts
  match files.node? place with
  | some _ => .error .exists
  | none => .ok (files.put place .directory)

/-- Creates the directory that parts of a path lead to, or leaves the one that is there already. -/
def ensureDirectory (files : Files) (start : Place) (parts : List String) : Except Fault Files :=
  match files.makeDirectory start parts with
  | .ok files => .ok files
  | .error fault =>
    match files.walk start parts with
    | .ok place => if files.node? place = some .directory then .ok files else .error fault
    | .error _ => .error fault

/-- Creates the directory that parts of a path, the last first, lead to, and those on the way that
are missing.  One that is there already is left. -/
def makeDirectoriesFrom (files : Files) (start : Place) : List String → Except Fault Files
  | [] => .ok files
  | last :: before =>
    let parts := (last :: before).reverse
    match files.makeDirectory start parts with
    | .error .notFound => do (← files.makeDirectoriesFrom start before).ensureDirectory start parts
    | _ => files.ensureDirectory start parts

/-- Creates a directory and those on the way to it that are missing. -/
def makeDirectories (files : Files) (path : String) : Except Fault Files :=
  if path.isEmpty then .ok files
  else if '\x00' ∈ path.toList then .error .nulInPath
  else if maxPathSize < (Text.Utf8.encode path).length then .error .nameTooLong
  else
    match files.begin? path with
    | none => .error .notFound
    | some (start, parts) =>
      files.makeDirectoriesFrom start (parts.filter (· != "")).reverse

/-- The names of everything directly in a directory. -/
def childNames (files : Files) (place : Place) : List String :=
  files.entries.filterMap fun e =>
    match e.1.getLast? with
    | some name => if e.1.dropLast = place then some name else none
    | none => none

/-- The paths of everything in the tree, directories with a slash behind, in the order of their
bytes. -/
def listing (files : Files) : List String :=
  let path (e : Place × Node) : String :=
    "/".intercalate e.1 ++ (if e.2 = .directory then "/" else "")
  (files.entries.map path).mergeSort fun a b => !(b < a)

end Files
end DatasetSync
