import GraphPrograms.Text.Blank

/-!
Control characters, and the text that is left without them.
-/

namespace GraphPrograms.Text

/-- The characters of general category Cc. -/
def isControl (character : Char) : Bool :=
  inRanges [(0x0, 0x1F), (0x7F, 0x9F)] character.toNat

/-- A text without its control characters, so that nothing in it can drive a terminal. -/
def printable (text : Text) : Text := text.filter (!isControl ·)

end GraphPrograms.Text
