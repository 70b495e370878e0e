import GraphPrograms.Equation.Basic
import GraphPrograms.Equation.Chain

/-!
Equations in the calculator's notation: its variables are `X` and `Y`, and a two-sided constraint
is a conjunction.

The variables are renamed letter by letter, also inside the names of functions.
-/

namespace GraphPrograms

/-- The calculator's letter for a letter: its two variables have upper-case names. -/
def deviceLetter (letter : Char) : Char :=
  if letter = 'x' then 'X' else if letter = 'y' then 'Y' else letter

def deviceLetters (text : Text) : Text := text.map deviceLetter

/-- The equation in the calculator's notation. -/
def Equation.normalize (equation : Equation) : Equation where
  expression := deviceLetters equation.expression
  constraint := Chain.conjoined (deviceLetters equation.constraint)

theorem deviceLetter_ne (letter : Char) :
    deviceLetter letter ≠ 'x' ∧ deviceLetter letter ≠ 'y' := by
  unfold deviceLetter
  split
  · decide
  · split
    · decide
    · constructor <;> assumption

end GraphPrograms
