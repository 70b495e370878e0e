import GraphPrograms.Draft
import GraphPrograms.Screen.Panel

/-!
The box in which the color is typed.

The draft stands behind a prompt.  If the part before the cursor is too wide for the box, whole
clusters are left out in front until the cursor is in sight.  Columns are counted in 16 bits, as
terminals do.
-/

namespace GraphPrograms

/-- A draft in a box of some columns. -/
structure ColorBox where
  area : Area
  prompt : Text
  draft : Draft
deriving DecidableEq, Repr

namespace ColorBox

/-- The largest column. -/
def lastColumn : Nat := 65535

/-- The text before the box's content. -/
def lead (box : ColorBox) : Text := box.prompt ++ [' ']

/-- The columns for the draft: those between the frame's sides and behind the prompt. -/
def room (box : ColorBox) : Nat := box.area.width - (4 + Text.width box.lead)

/-- The columns of the draft before the cursor. -/
def cursorColumns (box : ColorBox) : Nat := Text.width box.draft.before

/-- Leaves out clusters until `target` columns are gone, and gives the columns that are. -/
def leaveOut (target : Nat) : Nat → List Text → Nat × List Text
  | gone, [] => (gone, [])
  | gone, cluster :: rest =>
      if target ≤ gone then (gone, cluster :: rest)
      else leaveOut target (gone + Text.width cluster) rest

/-- The columns left out in front, and the text that is shown. -/
def scrolled (box : ColorBox) : Nat × Text :=
  if 0 < box.room ∧ box.room ≤ box.cursorColumns then
    let left := leaveOut (box.cursorColumns - box.room + 1) 0 (Text.clusters box.draft.text)
    (left.1, left.2.flatten)
  else (0, box.draft.text)

/-- The part of the draft that is shown, before control characters are left out. -/
def shown (box : ColorBox) : Text := box.scrolled.2

/-- The column of the cursor on the screen. -/
def cursorColumn (box : ColorBox) : Nat :=
  min lastColumn (min lastColumn (box.area.left + 2 + Text.width box.lead) +
    box.cursorColumns % (lastColumn + 1)) - box.scrolled.1 % (lastColumn + 1)

/-- The column and row of the cursor on the screen. -/
def cursor (box : ColorBox) : Nat × Nat :=
  (box.cursorColumn, min lastColumn (box.area.top + 1))

/-- Prompt and draft as they are drawn. -/
def line (box : ColorBox) (palette : Palette) : Line :=
  [⟨box.lead, { ink? := some palette.primary }⟩,
   ⟨Text.printable box.shown, { ink? := some palette.primaryText }⟩]

end ColorBox

end GraphPrograms
