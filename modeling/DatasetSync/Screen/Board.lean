/-
What the dashboard knows of a run.

A board is what is left of the notices so far: the phase, the source in hand, the
progress of the moment, the latest status of every source and the last hundred
messages.  `Board.note` takes in one notice; how a board looks is another matter.
-/
import DatasetSync.Notice

namespace DatasetSync.Screen

/-- The state that the panels show. -/
structure Board where
  phase : Phase := .checking
  info : String := ""
  progress : Option Progress := none
  sources : List (String × SourceStatus) := []
  messages : List String := []
deriving DecidableEq, Repr

namespace Board

/-- The board before a run over sources of these names. -/
def start (names : List String) : Board :=
  { sources := names.map fun name => (name, .pending) }

/-- Sets the status of the first source of a name, or adds the source at the end. -/
def setStatus (name : String) (status : SourceStatus) :
    List (String × SourceStatus) → List (String × SourceStatus)
  | [] => [(name, status)]
  | entry :: rest =>
    if entry.1 = name then (name, status) :: rest else entry :: setStatus name status rest

/-- How many messages are kept. -/
def capacity : Nat := 100

/-- Adds a message; the oldest make room. -/
def addMessage (messages : List String) (text : String) : List String :=
  let all := messages ++ [text]
  all.drop (all.length - capacity)

/-- Takes in a notice. -/
def note (b : Board) : Notice → Board
  | .phase phase => { b with phase }
  | .info info => { b with info }
  | .progress progress => { b with progress := some progress }
  | .clearProgress => { b with progress := none }
  | .message text => { b with messages := addMessage b.messages text }
  | .status name status => { b with sources := setStatus name status b.sources }

end Board

end DatasetSync.Screen
