import GraphPrograms.Screen.Line

/-!
Panels: a frame with round corners, a title in its upper side, and room for content inside.
-/

namespace GraphPrograms

namespace Style

def title (palette : Palette) : Style := { ink? := some palette.primary, bold := true }

def border (palette : Palette) : Style := { ink? := some palette.border }

def panel (palette : Palette) : Style := { ground? := some palette.panelGround }

end Style

namespace Area

/-- What stands at a cell of the frame of an area. -/
def frame? (area : Area) (column row : Nat) : Option Char :=
  let atLeft := column == area.left
  let atRight := column + 1 == area.left + area.width
  let atTop := row == area.top
  let atBottom := row + 1 == area.top + area.height
  if atLeft && atTop then some '╭'
  else if atLeft && atBottom then some '╰'
  else if atRight && atTop then some '╮'
  else if atRight && atBottom then some '╯'
  else if atLeft || atRight then some '│'
  else if atTop || atBottom then some '─'
  else none

/-- The room inside a frame, with one more column free at either side. -/
def content (area : Area) : Area :=
  ⟨area.left + 2, area.top + 1, area.width - 4, area.height - 2⟩

end Area

/-- Draws a panel. -/
def Canvas.writePanel (canvas : Canvas) (area : Area) (palette : Palette) (title : Text) : Canvas :=
  let framed := (canvas.fill area (.panel palette)).change area fun column row cell =>
    match area.frame? column row with
    | some side => cell.write [side] (.border palette)
    | none => cell
  let side : Area := ⟨area.left + 1, area.top, area.width - 2, min area.height 1⟩
  framed.writeLines side .left [[⟨[' '] ++ title ++ [' '], .title palette⟩]]

end GraphPrograms
