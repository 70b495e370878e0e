import GraphPrograms.Screen.Line

/-!
Breaking a line into rows of a given width.

Rows are broken between words.  The blanks at a break stay as far as they fit into the row before
it, and a word that is too long for a row is broken where the row ends.
-/

namespace GraphPrograms

/-- The state of the breaking: the rows that are finished, the row under way, and the blanks and
the word behind it that are not yet known to fit. -/
structure Wrapping where
  rows : List (List Symbol) := []
  row : List Symbol := []
  blanks : List Symbol := []
  word : List Symbol := []
  afterWord : Bool := false
deriving DecidableEq, Repr

namespace Wrapping

/-- The row with all that is behind it. -/
def whole (state : Wrapping) : List Symbol := state.row ++ state.blanks ++ state.word

/-- Takes blanks and word into the row. -/
def settle (state : Wrapping) : Wrapping :=
  { state with row := state.whole, blanks := [], word := [] }

/-- Leaves out blanks as long as they fit into the room. -/
def dropFitting : Nat → List Symbol → List Symbol
  | _, [] => []
  | room, blank :: rest =>
      if blank.width ≤ room then dropFitting (room - blank.width) rest else blank :: rest

/-- Finishes the row; the blanks behind it that fit are gone with it. -/
def finishRow (state : Wrapping) (width : Nat) : Wrapping :=
  { state with
    rows := state.rows ++ [state.row]
    row := []
    blanks := dropFitting (width - Symbol.columns state.row) state.blanks }

/-- Adds a symbol to the blanks or to the word. -/
def push (state : Wrapping) (symbol : Symbol) : Wrapping :=
  if symbol.isBlank then
    { state with blanks := state.blanks ++ [symbol], afterWord := false }
  else { state with word := state.word ++ [symbol], afterWord := true }

/-- Whether blanks and word belong to the row: a word is over, or is too long for a row. -/
def settles (state : Wrapping) (width : Nat) (symbol : Symbol) : Bool :=
  (state.afterWord && symbol.isBlank) ||
    (state.row.isEmpty && decide (width < Symbol.columns state.whole + symbol.width))

/-- Whether the row is over before a symbol. -/
def isFull (state : Wrapping) (width : Nat) (symbol : Symbol) : Bool :=
  decide (width ≤ Symbol.columns state.row) ||
    (decide (0 < symbol.width) && decide (width ≤ Symbol.columns state.whole))

/-- Reads one symbol. -/
def step (width : Nat) (state : Wrapping) (symbol : Symbol) : Wrapping :=
  if width < symbol.width then state
  else
    let settled := if state.settles width symbol then state.settle else state
    if settled.isFull width symbol then
      let next := settled.finishRow width
      if symbol.isBlank && next.blanks.isEmpty then next else next.push symbol
    else settled.push symbol

/-- All rows; a line without symbols is one empty row. -/
def finish (state : Wrapping) : List (List Symbol) :=
  let rows := state.rows ++ (if state.whole.isEmpty then [] else [state.whole])
  if rows.isEmpty then [[]] else rows

end Wrapping

/-- The rows of a line. -/
def Line.wrap (width : Nat) (line : Line) : List (List Symbol) :=
  (line.symbols.foldl (Wrapping.step width) {}).finish

namespace Canvas

/-- Writes lines into an area, each broken into rows of its width. -/
def writeWrapped (canvas : Canvas) (area : Area) (alignment : Alignment) (lines : List Line) :
    Canvas :=
  if area.width = 0 then canvas
  else canvas.writeRows area alignment (lines.flatMap (Line.wrap area.width))

end Canvas

end GraphPrograms
