/-
The four panels of the dashboard.

The status panel shows the phase and the source in hand, the progress panel a bar
with a label, the sources panel a line for each source and the activity panel the
last messages.  Each draws a board into an area of the screen.
-/
import DatasetSync.Screen.Board
import DatasetSync.Screen.Grid
import DatasetSync.Text.Blank

namespace DatasetSync.Screen

/-! ### Status -/

/-- The mark of a phase. -/
def phaseMark : Phase → String
  | .checking => "?"
  | .fetching => "↓"
  | .loading => "⚙"
  | .complete => "✓"

/-- The look of a phase. -/
def phaseLook : Phase → Look
  | .complete => { ink := .green, bold := true }
  | _ => { ink := .yellow, bold := true }

/-- The lines of the status panel. -/
def statusLines (b : Board) : List (List Span) :=
  [[⟨" " ++ phaseMark b.phase ++ " ", phaseLook b.phase⟩, ⟨b.phase.title, phaseLook b.phase⟩],
    [],
    [⟨"   ", {}⟩, ⟨b.info, { ink := .gray }⟩]]

def drawStatus (b : Board) (area : Area) (g : Grid) : Grid :=
  let inner := area.inner
  ((statusLines b).take inner.height).zipIdx.foldl
    (fun g line => g.writeLine inner.left (inner.top + line.2) inner.width line.1)
    (g.drawBorder area " Pokedex to SQLite ")

/-! ### Progress -/

/-- The part of the bar that is filled, at most the whole. -/
def fillRatio (p : Progress) : Number.Binary64 :=
  let whole := Number.Binary64.ofNat 1
  if whole.code < p.ratio.code then whole else p.ratio

/-- The text in the bar.  The percentage is rounded to a whole number, a tie to the even one. -/
def progressLabel (p : Progress) : String :=
  p.label ++ ": " ++ toString p.current ++
    if p.total = 0 then ""
    else
      let percent := p.ratio.mul (Number.Binary64.ofNat 100)
      "/" ++ toString p.total ++ " (" ++ percent.fixed 0 ++ "%)"

/-- How many of the cells in a row of the bar are filled. -/
def filledCells (width : Nat) (p : Progress) : Nat :=
  let filled := (Number.Binary64.ofNat width).mul (fillRatio p)
  Number.Binary64.roundHalfUp filled.numerator Number.Binary64.denominator

/-- Draws a bar: full blocks over the filled cells, but the label's cells are blank with their
colours turned round, and one more after them. -/
def drawBar (p : Progress) (area : Area) (g : Grid) : Grid :=
  if area.width = 0 || area.height = 0 then g
  else
    let label := progressLabel p
    let labelWidth := min area.width (Text.width label)
    let column := (area.width - labelWidth) / 2
    let row := area.height / 2
    let filled := filledCells area.width p
    let barred := g.alterArea area fun x y cell =>
      if filled ≤ x then { cell with look := { ink := .yellow, paper := .darkGray } }
      else if y = row && column ≤ x && x ≤ column + labelWidth then
        ⟨" ", { ink := .darkGray, paper := .yellow }⟩
      else ⟨"█", { ink := .yellow, paper := .darkGray }⟩
    barred.write (area.left + column) (area.top + row) labelWidth label

def drawProgress (b : Board) (area : Area) (g : Grid) : Grid :=
  let sided := g.drawSides area
  match b.progress with
  | none => sided
  | some p => drawBar p ⟨area.left + 1, area.top, area.width - 2, area.height⟩ sided

/-! ### Lists -/

/-- Draws a bordered list; what does not fit below is left out. -/
def drawList (title : String) (items : List (List Span)) (area : Area) (g : Grid) : Grid :=
  let inner := area.inner
  (items.take inner.height).zipIdx.foldl
    (fun g item => g.writeItem inner.left (inner.left + inner.width) (inner.top + item.2) item.1)
    (g.drawBorder area title)

/-- The mark of a status and its colour. -/
def statusMark : SourceStatus → String × Colour
  | .pending => ("·", .darkGray)
  | .skipped => ("=", .gray)
  | .loaded _ => ("+", .green)
  | .failed _ => ("!", .red)

/-- The line of a source. -/
def sourceItem (entry : String × SourceStatus) : List Span :=
  let (mark, ink) := statusMark entry.2
  [⟨" " ++ mark ++ " ", { ink }⟩, ⟨Text.padRight 22 entry.1, {}⟩, ⟨entry.2.words, { ink }⟩]

def drawSources (b : Board) (area : Area) (g : Grid) : Grid :=
  drawList " Sources " (b.sources.map sourceItem) area g

/-- The lines of the activity panel: the last messages, the newest brighter than the rest. -/
def messageItems (b : Board) (room : Nat) : List (List Span) :=
  let newest := b.messages.length - 1
  (b.messages.zipIdx.drop (b.messages.length - room)).map fun (text, k) =>
    [⟨" " ++ text, { ink := if k = newest then .white else .darkGray }⟩]

def drawActivity (b : Board) (area : Area) (g : Grid) : Grid :=
  drawList " Activity " (messageItems b (area.height - 2)) area g

/-! ### Panels -/

/-- A part of the dashboard. -/
inductive Panel
  | status
  | progress
  | sources
  | activity
deriving DecidableEq, Repr

/-- Draws a panel into an area. -/
def Panel.draw (panel : Panel) (b : Board) (area : Area) (g : Grid) : Grid :=
  match panel with
  | status => drawStatus b area g
  | progress => drawProgress b area g
  | sources => drawSources b area g
  | activity => drawActivity b area g

end DatasetSync.Screen
