import GraphPrograms.Screen.Canvas
import GraphPrograms.Text.Cluster
import GraphPrograms.Text.Control
import GraphPrograms.Text.Width

/-!
Lines of text on a screen.

A line is drawn cluster by cluster.  Clusters with control characters are left out, and those that
take no column are not drawn.  A symbol of several columns stands in the first one, and the cells
of the others stay as they were.
-/

namespace GraphPrograms

/-- A text in one style. -/
structure Span where
  text : Text
  style : Style := {}
deriving DecidableEq, Repr

abbrev Line := List Span

/-- What is drawn at one place of a line. -/
structure Symbol where
  text : Text
  width : Nat
  style : Style
deriving DecidableEq, Repr

namespace Symbol

/-- The columns that symbols take one behind the other. -/
def columns : List Symbol → Nat
  | [] => 0
  | symbol :: rest => symbol.width + columns rest

/-- Whether a line may be broken here.  The blank that forbids a break is not one of these, and
the mark of width zero that allows one is. -/
def isBlank (symbol : Symbol) : Bool :=
  symbol.text == ['\u200B'] || (Text.isAllBlank symbol.text && symbol.text != ['\u00A0'])

/-- The symbols that fit into a width.  Those that are wider than all of it are left out, and the
first other one that does not fit ends the line. -/
def fitting (width : Nat) : Nat → List Symbol → List Symbol
  | _, [] => []
  | room, symbol :: rest =>
      if width < symbol.width then fitting width room rest
      else if room < symbol.width then []
      else symbol :: fitting width (room - symbol.width) rest

/-- Symbols with the columns in which they are drawn. -/
def placed : Nat → List Symbol → List (Nat × Symbol)
  | _, [] => []
  | column, symbol :: rest =>
      if symbol.width = 0 then placed column rest
      else (column, symbol) :: placed (column + symbol.width) rest

end Symbol

/-- The symbols of a span. -/
def Span.symbols (span : Span) : List Symbol :=
  ((Text.clusters span.text).filter (!·.any Text.isControl)).map fun cluster =>
    ⟨cluster, Text.width cluster, span.style⟩

def Line.symbols (line : Line) : List Symbol := line.flatMap Span.symbols

/-- Where a line stands in the width of its area. -/
inductive Alignment where
  | left
  | center
  | right
deriving DecidableEq, Repr

/-- The columns before a line. -/
def Alignment.offset (alignment : Alignment) (width line : Nat) : Nat :=
  match alignment with
  | left => 0
  | center => width / 2 - line / 2
  | right => width - line

namespace Canvas

/-- Writes symbols into a row from a column on. -/
def write (canvas : Canvas) (left row : Nat) (symbols : List Symbol) : Canvas :=
  let placed := Symbol.placed left symbols
  { cell := fun column other =>
      if other = row then
        match placed.lookup column with
        | some symbol => (canvas.cell column row).write symbol.text symbol.style
        | none => canvas.cell column row
      else canvas.cell column other }

/-- Writes the rows of a text into an area, as far as it has rows. -/
def writeRows (canvas : Canvas) (area : Area) (alignment : Alignment) (rows : List (List Symbol)) :
    Canvas :=
  (rows.take area.height).zipIdx.foldl (fun canvas entry =>
    let offset := alignment.offset area.width (Symbol.columns entry.1)
    canvas.write (area.left + offset) (area.top + entry.2) entry.1) canvas

/-- Writes lines into an area, each cut at its width. -/
def writeLines (canvas : Canvas) (area : Area) (alignment : Alignment) (lines : List Line) :
    Canvas :=
  canvas.writeRows area alignment
    (lines.map fun line => Symbol.fitting area.width area.width line.symbols)

end Canvas

end GraphPrograms
