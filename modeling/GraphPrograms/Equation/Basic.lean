import GraphPrograms.Text.Blank

/-!
Equations of a graph: `y = expression {constraint}`.

`Equation.parse` reads a line and `toLine` writes one.  A line that starts like an equation is
one: whatever follows the constraint, or an unclosed brace, is left aside.  The parts it yields
satisfy `WellFormed`, and those are the equations that writing and reading give back.
-/

namespace GraphPrograms

/-- A curve of the graph: what `y` is, and where; an empty constraint means everywhere. -/
structure Equation where
  expression : Text
  constraint : Text
deriving DecidableEq, Repr

/-- Why a line is no equation. -/
inductive RejectReason where
  | noMatch
deriving DecidableEq, Repr

def RejectReason.message : RejectReason → Text
  | .noMatch => "line does not match `y = expression \x7bconstraint\x7d`".toList

namespace Equation

/-- The text after a first character that has to be `mark`. -/
def expect (mark : Char) : Text → Except RejectReason Text
  | [] => .error .noMatch
  | first :: rest => if first = mark then .ok rest else .error .noMatch

/-- The constraint that a tail starting at the first brace holds: the trimmed text between that
brace and the next closing one, and nothing if there is no closing one. -/
def clause : Text → Text
  | '{' :: body =>
      match Text.cut? '}' body with
      | some (inner, _) => Text.trim inner
      | none => []
  | _ => []

/-- Reads a line: blanks, `y`, blanks, `=`, an expression that ends at the first brace or with
the line and is not blank, and the clause at that brace. -/
def parse (line : Text) : Except RejectReason Equation := do
  let afterVariable ← expect 'y' (Text.trimStart line)
  let right ← expect '=' (Text.trimStart afterVariable)
  let expression := Text.trim (right.takeWhile (· != '{'))
  if expression.isEmpty then .error .noMatch
  else .ok ⟨expression, clause (right.dropWhile (· != '{'))⟩

def hasConstraint (equation : Equation) : Bool := !equation.constraint.isEmpty

/-- The equation as a line of an input file. -/
def toLine (equation : Equation) : Text :=
  "y = ".toList ++ equation.expression ++
    (if equation.hasConstraint then ['{'] ++ equation.constraint ++ ['}'] else [])

/-- The equation as it is shown, with a space before the constraint. -/
def display (equation : Equation) : Text :=
  "y = ".toList ++ equation.expression ++
    (if equation.hasConstraint then [' ', '{'] ++ equation.constraint ++ ['}'] else [])

/-- The equations that lines hold. -/
structure WellFormed (equation : Equation) : Prop where
  expression_ne_nil : equation.expression ≠ []
  expression_trimmed : Text.trim equation.expression = equation.expression
  expression_free : '{' ∉ equation.expression
  constraint_trimmed : Text.trim equation.constraint = equation.constraint
  constraint_free : '}' ∉ equation.constraint

end Equation

end GraphPrograms
