import GraphPrograms.Equation.Kind
import GraphPrograms.Look.Basic

/-!
The colors of the screen by what they are for.
-/

namespace GraphPrograms

/-- A color of the terminal: one of its own, or a mixture. -/
inductive Tint where
  | unset
  | black
  | red
  | green
  | yellow
  | blue
  | magenta
  | cyan
  | gray
  | darkGray
  | white
  | mixed (red green blue : UInt8)
deriving DecidableEq, Repr, Inhabited

structure Palette where
  ground : Tint
  panelGround : Tint
  border : Tint
  primaryText : Tint
  secondaryText : Tint
  mutedText : Tint
  primary : Tint
  accent : Tint
  success : Tint
  warning : Tint
  error : Tint
  peach : Tint
  green : Tint
  yellow : Tint
  blue : Tint
  pink : Tint
deriving DecidableEq, Repr

namespace Palette

def standard : Palette where
  ground := .mixed 22 22 29
  panelGround := .mixed 31 31 40
  border := .mixed 84 84 109
  primaryText := .mixed 220 215 186
  secondaryText := .mixed 200 192 147
  mutedText := .mixed 114 113 105
  primary := .mixed 149 127 184
  accent := .mixed 127 180 202
  success := .mixed 152 187 108
  warning := .mixed 230 195 132
  error := .mixed 255 93 98
  peach := .mixed 255 160 102
  green := .mixed 152 187 108
  yellow := .mixed 230 195 132
  blue := .mixed 126 156 216
  pink := .mixed 210 126 153

def highContrast : Palette where
  ground := .black
  panelGround := .black
  border := .gray
  primaryText := .white
  secondaryText := .gray
  mutedText := .darkGray
  primary := .white
  accent := .cyan
  success := .green
  warning := .yellow
  error := .red
  peach := .yellow
  green := .green
  yellow := .yellow
  blue := .blue
  pink := .magenta

/-- The color that the name of a kind is written in. -/
def ofKind (palette : Palette) : FunctionKind → Tint
  | .trigonometric => palette.accent
  | .quadratic => palette.green
  | .logarithmic => palette.yellow
  | .radical => palette.pink
  | .exponential => palette.peach
  | .linear => palette.blue

end Palette

def Look.palette (look : Look) : Palette :=
  if look.highContrast then .highContrast else .standard

end GraphPrograms
