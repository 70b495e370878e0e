/-!
How the screen looks, as far as the user chooses it.
-/

namespace GraphPrograms

structure Look where
  /-- Marks are drawn with ASCII characters. -/
  asciiOnly : Bool := false
  /-- Colors are the terminal's own, far apart from one another. -/
  highContrast : Bool := false
deriving DecidableEq, Repr

end GraphPrograms
