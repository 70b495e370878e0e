import GraphPrograms.Text.Blank
import GraphPrograms.Text.Case

/-!
Colors as the calculator is told them: a name or a number, trimmed and in upper case.
-/

namespace GraphPrograms

/-- The word for a color in a program. -/
structure Color where
  token : Text
deriving DecidableEq, Repr

namespace Color

/-- The color of an equation that nobody gave one. -/
def fallback : Color := ⟨"BLACK".toList⟩

/-- What a preview shows for an equation without a color. -/
def placeholder : Color := ⟨"color".toList⟩

/-- The color that a typed text names; a blank text names the fallback. -/
def ofText (text : Text) : Color :=
  let trimmed := Text.trim text
  if trimmed.isEmpty then fallback else ⟨Text.upper trimmed⟩

end Color

end GraphPrograms
