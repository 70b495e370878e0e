import GraphPrograms.Screen.Line

/-!
Gauges: a bar that shows how much of a whole is done, with a label over it.

The length of the bar is computed in double precision, so that a half is decided as it falls
there: the share is rounded to 53 bits, and so is its product with the width; the result is
rounded to the nearest cell, halves up.
-/

namespace GraphPrograms

namespace Gauge

/-- The whole number nearest to a quotient, the even one of two. -/
def nearest (numerator denominator : Nat) : Nat :=
  let quotient := numerator / denominator
  let twice := 2 * (numerator % denominator)
  if twice < denominator then quotient
  else if denominator < twice then quotient + 1
  else quotient + quotient % 2

/-- The power of two by which a share below one is multiplied to have 53 bits before the point. -/
def scale (part whole : Nat) : Nat :=
  let power := 53 + Nat.log2 whole - Nat.log2 part
  if part <<< power < whole <<< 53 then power else power - 1

/-- A number rounded to its first 53 bits. -/
def rounded (number : Nat) : Nat :=
  let unit := 1 <<< (Nat.log2 number + 1 - 53)
  nearest number unit * unit

/-- The cells of a bar for a part of a whole. -/
def length (width part whole : Nat) : Nat :=
  if whole ≤ part then width
  else if part = 0 then 0
  else
    let power := scale part whole
    let product := rounded (width * nearest (part <<< power) whole)
    (2 * product + 1 <<< power) >>> (power + 1)

end Gauge

/-- Draws a gauge in one row.  Under the label and in the cell behind it the bar is drawn by
exchanging the colors. -/
def Canvas.writeGauge (canvas : Canvas) (area : Area) (ink ground : Tint) (part whole : Nat)
    (label : Text) : Canvas :=
  let room := min area.width (Text.width label)
  let start := area.left + (area.width - room) / 2
  let bar : Area := { area with width := Gauge.length area.width part whole }
  let style : Style := { ink? := some ink, ground? := some ground }
  let filled := (canvas.fill area style).change bar fun column _ cell =>
    if column < start ∨ start + room < column then
      { cell with symbol := ['█'], ink := ink, ground := ground }
    else { cell with symbol := [' '], ink := ground, ground := ink }
  filled.writeLines ⟨start, area.top, room, area.height⟩ .left [[⟨label, {}⟩]]

end GraphPrograms
