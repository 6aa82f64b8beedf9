/-
A screen as a grid of cells.

Each cell holds one cluster of characters and the colours it is shown in.  What
is drawn outside the grid is lost, and text is never wrapped: it ends where the
next cluster would not fit.  A cluster two cells wide stands in the first of its
cells, and the second is left blank and plain, for the cluster hides it.
-/
import DatasetSync.Text.Width

namespace DatasetSync.Screen

/-! ### Cells -/

/-- A colour of the terminal. -/
inductive Colour
  /-- The terminal's own. -/
  | plain
  | red
  | green
  | yellow
  | gray
  | darkGray
  | white
deriving DecidableEq, Repr

/-- How a cell is shown. -/
structure Look where
  ink : Colour := .plain
  paper : Colour := .plain
  bold : Bool := false
deriving DecidableEq, Repr

/-- A place on the screen. -/
structure Cell where
  symbol : String := " "
  look : Look := {}
deriving DecidableEq, Repr

/-- A text in one look. -/
structure Span where
  text : String
  look : Look := {}
deriving DecidableEq, Repr

/-- A rectangle of cells. -/
structure Area where
  left : Nat
  top : Nat
  width : Nat
  height : Nat
deriving DecidableEq, Repr

/-- A screen, row by row. -/
structure Grid where
  rows : List (List Cell)
deriving DecidableEq, Repr

namespace Grid

/-- The empty screen. -/
def blank (width height : Nat) : Grid :=
  ⟨List.replicate height (List.replicate width {})⟩

/-- Changes one cell. -/
def alter (g : Grid) (x y : Nat) (f : Cell → Cell) : Grid :=
  ⟨g.rows.modify y fun row => row.modify x f⟩

/-- Changes the cells of an area; the change is told where in the area a cell is. -/
def alterArea (g : Grid) (area : Area) (f : Nat → Nat → Cell → Cell) : Grid :=
  let within (start size k : Nat) : Bool := start ≤ k && k < start + size
  ⟨g.rows.mapIdx fun y row =>
    if within area.top area.height y then
      row.mapIdx fun x cell =>
        if within area.left area.width x then f (x - area.left) (y - area.top) cell else cell
    else row⟩

/-- Makes the cells that a cluster at `x` hides blank and plain. -/
def hide (g : Grid) (x y width : Nat) : Grid :=
  (List.range (width - 1)).foldl (fun g k => g.alter (x + 1 + k) y fun _ => {}) g

/-! ### Text -/

/-- The clusters at the front that fit into a number of cells. -/
def fitting (cells : Nat) : List (String × Nat) → List (String × Nat)
  | [] => []
  | (cluster, width) :: rest =>
    if width ≤ cells then (cluster, width) :: fitting (cells - width) rest else []

/-- Puts clusters one after the other, each in the look that its cell already has. -/
def putClusters (g : Grid) (x y : Nat) : List (String × Nat) → Grid
  | [] => g
  | (cluster, width) :: rest =>
    putClusters ((g.alter x y fun cell => { cell with symbol := cluster }).hide x y width)
      (x + width) y rest

/-- Writes a text over a number of cells, in the look that they have. -/
def write (g : Grid) (x y cells : Nat) (text : String) : Grid :=
  g.putClusters x y (fitting cells ((Text.measuredClusters text).filter fun c => 0 < c.2))

/-! ### Lines in several looks -/

/-- Writes a line as part of a paragraph.  Clusters without a width are left out, and so are those
wider than the whole line. -/
def writeLine (g : Grid) (x y cells : Nat) (spans : List Span) : Grid :=
  let pieces := spans.flatMap fun span =>
    ((Text.measuredClusters span.text).filter fun c => 0 < c.2 && c.2 ≤ cells).map
      fun c => (span.look, c)
  go g x (x + cells) pieces
where
  go (g : Grid) (x stop : Nat) : List (Look × String × Nat) → Grid
    | [] => g
    | (look, cluster, width) :: rest =>
      if stop < x + width then g
      else go (g.alter x y fun _ => ⟨cluster, look⟩) (x + width) stop rest

/-- Writes a span between two columns.  A cluster without a width joins the cell before it, and at
the left end the cell itself. -/
def writeSpan (g : Grid) (left right y : Nat) (span : Span) : Grid :=
  go g left true (Text.measuredClusters span.text)
where
  go (g : Grid) (x : Nat) (first : Bool) : List (String × Nat) → Grid
    | [] => g
    | (cluster, width) :: rest =>
      if right < x + width then g
      else
        let put (_ : Cell) : Cell := ⟨cluster, span.look⟩
        let join (cell : Cell) : Cell := ⟨cell.symbol ++ cluster, span.look⟩
        let g :=
          if first then g.alter x y put
          else if x = left then g.alter x y join
          else if width = 0 then g.alter (x - 1) y join
          else g.alter x y put
        go (g.hide x y width) (x + width) false rest

/-- Writes a line as the item of a list: each span in the room that the ones before it leave. -/
def writeItem (g : Grid) (left right y : Nat) : List Span → Grid
  | [] => g
  | span :: rest =>
    if right ≤ left then g
    else
      (g.writeSpan left right y span).writeItem (left + Text.width span.text) right y rest

/-! ### Borders -/

/-- The colour of every border. -/
def borderLook : Look := { ink := .red }

/-- The part of a border at a place of an area; the corner at the top left wins over the others. -/
def borderSymbol? (width height x y : Nat) : Option String :=
  if x = 0 && y = 0 then some "┌"
  else if x = 0 && y + 1 = height then some "└"
  else if x + 1 = width && y = 0 then some "┐"
  else if x + 1 = width && y + 1 = height then some "┘"
  else if x = 0 || x + 1 = width then some "│"
  else if y = 0 || y + 1 = height then some "─"
  else none

/-- Draws a border around an area, with a title in its upper side. -/
def drawBorder (g : Grid) (area : Area) (title : String) : Grid :=
  let bordered := g.alterArea area fun x y cell =>
    match borderSymbol? area.width area.height x y with
    | some symbol => ⟨symbol, borderLook⟩
    | none => cell
  if area.height = 0 then bordered
  else bordered.write (area.left + 1) area.top (area.width - 2) title

/-- Draws the left and the right side of an area. -/
def drawSides (g : Grid) (area : Area) : Grid :=
  g.alterArea area fun x _ cell =>
    if x = 0 || x + 1 = area.width then ⟨"│", borderLook⟩ else cell

/-! ### Reading a screen -/

/-- The symbols of a row as a terminal shows them: a wide one covers the next cell. -/
def shownRow : List Cell → String
  | [] => ""
  | cell :: rest =>
    match rest with
    | hidden :: others =>
      if 1 < Text.width cell.symbol then cell.symbol ++ shownRow others
      else cell.symbol ++ shownRow (hidden :: others)
    | [] => cell.symbol

/-- What a terminal shows, without the blanks at the ends of the lines. -/
def shownLines (g : Grid) : List String :=
  g.rows.map fun row => (shownRow row).trimAsciiEnd.toString

end Grid

/-- The area inside a border. -/
def Area.inner (area : Area) : Area :=
  ⟨area.left + 1, area.top + 1, area.width - 2, area.height - 2⟩

end DatasetSync.Screen
