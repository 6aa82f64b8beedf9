/-
The full-screen display of a run.

A dashboard keeps a board up to date with the notices of the run, and between two
sources it looks at what the terminal has reported: at most one thing each time.
A key that quits is remembered, so the run stops then and at every later check.
-/
import DatasetSync.Ingest
import DatasetSync.Screen.Input
import DatasetSync.Screen.Panel

namespace DatasetSync.Screen

/-- The state of the display. -/
structure Dashboard where
  board : Board
  /-- What the terminal has reported and nobody has looked at, the oldest first. -/
  pending : List Input := []
  stopping : Bool := false
deriving DecidableEq, Repr

namespace Dashboard

/-! ### During a run -/

/-- The display at the start of a run. -/
def start (names : List String) (pending : List Input) : Dashboard :=
  ⟨Board.start names, pending, false⟩

/-- Takes in a notice. -/
def note (d : Dashboard) (notice : Notice) : Dashboard :=
  { d with board := d.board.note notice }

/-- Looks at the oldest thing that the terminal has reported. -/
def poll (d : Dashboard) : Dashboard :=
  match d.pending with
  | [] => d
  | input :: rest =>
    let d := { d with pending := rest }
    if input.quits then
      { d with stopping := true }.note (.message "Stopping after the current source...")
    else d

/-- The dashboard as the display of a run. -/
def display : Display Dashboard where
  tell
    | d, .notice notice => d.note notice
    | d, _ => d
  asksToStop d :=
    let d := d.poll
    (d.stopping, d)

/-- The display at the end of a run, while it waits for a key. -/
def finish (d : Dashboard) (summary : String) : Dashboard :=
  [.phase .complete, .clearProgress, .message summary,
    .message "Press any key to exit..."].foldl note d

/-! ### On the screen -/

/-- The panels and their areas on a screen of a given size. -/
def layout (width height : Nat) : List (Panel × Area) :=
  [(.status, ⟨0, 0, width, 5⟩),
    (.progress, ⟨0, 5, width, 3⟩),
    (.sources, ⟨0, 8, 44, height - 8⟩),
    (.activity, ⟨44, 8, width - 44, height - 8⟩)]

/-- The screen of a display. -/
def draw (d : Dashboard) (width height : Nat) : Grid :=
  (layout width height).foldl (fun g (panel, area) => panel.draw d.board area g)
    (Grid.blank width height)

end Dashboard

end DatasetSync.Screen
