import GraphPrograms.Look.Palette
import GraphPrograms.Text.Basic

/-!
The cells of a screen, and changing the cells of an area.

A canvas has a cell at every column and row; a screen shows those of its own size.
-/

namespace GraphPrograms

/-- How something is drawn.  What a style does not name stays as it is. -/
structure Style where
  ink? : Option Tint := none
  ground? : Option Tint := none
  bold : Bool := false
deriving DecidableEq, Repr

/-- A place for one column of a symbol. -/
structure Cell where
  symbol : Text := [' ']
  ink : Tint := .unset
  ground : Tint := .unset
  bold : Bool := false
deriving DecidableEq, Repr

namespace Cell

def restyle (cell : Cell) (style : Style) : Cell where
  symbol := cell.symbol
  ink := style.ink?.getD cell.ink
  ground := style.ground?.getD cell.ground
  bold := cell.bold || style.bold

def write (cell : Cell) (symbol : Text) (style : Style) : Cell :=
  { cell.restyle style with symbol := symbol }

@[simp] theorem symbol_restyle (cell : Cell) (style : Style) :
    (cell.restyle style).symbol = cell.symbol := rfl

end Cell

/-- A rectangle of cells. -/
structure Area where
  left : Nat
  top : Nat
  width : Nat
  height : Nat
deriving DecidableEq, Repr

namespace Area

def contains (area : Area) (column row : Nat) : Bool :=
  decide (area.left ≤ column) && decide (column < area.left + area.width) &&
    decide (area.top ≤ row) && decide (row < area.top + area.height)

/-- The area without one cell at every side; nothing is left of an area that is too small. -/
def inset (area : Area) : Area :=
  if area.width < 2 ∨ area.height < 2 then ⟨0, 0, 0, 0⟩
  else ⟨area.left + 1, area.top + 1, area.width - 2, area.height - 2⟩

/-- Some of the rows of an area. -/
def rows (area : Area) (first count : Nat) : Area :=
  { area with top := area.top + first, height := count }

/-- The last columns of an area, or all if there are not more. -/
def takeRight (area : Area) (width : Nat) : Area :=
  { area with
    left := area.left + (area.width - width)
    width := min width area.width }

/-- The columns that `takeRight` leaves. -/
def dropRight (area : Area) (width : Nat) : Area := { area with width := area.width - width }

end Area

structure Canvas where
  cell : Nat → Nat → Cell

namespace Canvas

def blank : Canvas := ⟨fun _ _ => {}⟩

/-- Changes the cells of an area, each by its column and row. -/
def change (canvas : Canvas) (area : Area) (next : Nat → Nat → Cell → Cell) : Canvas where
  cell column row :=
    if area.contains column row then next column row (canvas.cell column row)
    else canvas.cell column row

/-- Gives a style to the cells of an area. -/
def fill (canvas : Canvas) (area : Area) (style : Style) : Canvas :=
  canvas.change area fun _ _ cell => cell.restyle style

end Canvas

end GraphPrograms
