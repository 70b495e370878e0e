import GraphPrograms.Equation.Basic

/-!
A sheet of lines, sorted into equations and rejects.

Every line that is not blank goes to exactly one side, in the order of the lines.  A reject keeps
its text as it stood and the number of its line, which counts blank lines and equations too.
-/

namespace GraphPrograms

/-- A line that is no equation, by its number from one. -/
structure Reject where
  number : Nat
  text : Text
  reason : RejectReason
deriving DecidableEq, Repr

structure Sheet where
  equations : List Equation := []
  rejects : List Reject := []
deriving DecidableEq, Repr

namespace Sheet

/-- Puts one line in front of a sheet that starts below it. -/
def addLine (number : Nat) (line : Text) (below : Sheet) : Sheet :=
  if Text.isAllBlank line then below
  else
    match Equation.parse line with
    | .ok equation => { below with equations := equation :: below.equations }
    | .error reason => { below with rejects := ⟨number, line, reason⟩ :: below.rejects }

/-- Sorts lines of which the first has the given number. -/
def ofLinesFrom : Nat → List Text → Sheet
  | _, [] => {}
  | number, line :: lines => addLine number line (ofLinesFrom (number + 1) lines)

/-- Sorts the lines of a file. -/
def ofLines (lines : List Text) : Sheet := ofLinesFrom 1 lines

end Sheet

end GraphPrograms
