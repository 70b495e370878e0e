import GraphPrograms.Equation.Kind
import GraphPrograms.Program.Chunk

/-!
A session: the equations of a list are looked at one after the other and get their colors.

The cursor stands on an equation or, when all are done, behind the last one.  A step that is not
possible names the reason and leaves the session as it was.
-/

namespace GraphPrograms

structure Session where
  equations : List Equation
  assignment : Assignment
  cursor : Nat
deriving DecidableEq, Repr

/-- Why a step is not possible. -/
inductive Violation where
  | sessionComplete
  | atFirstEquation
deriving DecidableEq, Repr

def Violation.message : Violation → Text
  | .sessionComplete => "all equations have been processed".toList
  | .atFirstEquation => "already at the first equation".toList

/-- Where a session stands. -/
inductive SessionState where
  | active (cursor : Nat)
  | done
deriving DecidableEq, Repr

/-- The equation under the cursor, with all that is shown of it. -/
structure CurrentEquation where
  equation : Equation
  kind : FunctionKind
  preview : InstructionPair
  recorded : Option Color
deriving DecidableEq, Repr

/-- What is shown of a session. -/
structure SessionView where
  cursor : Nat
  total : Nat
  assigned : Nat
  current : Option CurrentEquation
deriving DecidableEq, Repr

/-- The number of equations that are behind the cursor. -/
def SessionView.processed (view : SessionView) : Nat := view.cursor

namespace Session

/-- A session that stands on the first equation, with no color given. -/
def ofEquations (equations : List Equation) : Session where
  equations := equations
  assignment := .blank equations.length
  cursor := 0

def total (session : Session) : Nat := session.equations.length

def isDone (session : Session) : Bool := decide (session.total ≤ session.cursor)

def state (session : Session) : SessionState :=
  if session.cursor < session.total then .active session.cursor else .done

def current? (session : Session) : Option Equation := session.equations[session.cursor]?

/-- The color given to the equation under the cursor. -/
def currentColor? (session : Session) : Option Color := session.assignment.get? session.cursor

/-- Gives the equation under the cursor the color that a text names, and goes on. -/
def submit (session : Session) (text : Text) : Except Violation Session :=
  if session.cursor < session.total then
    .ok { session with
      assignment := session.assignment.set session.cursor (.ofText text)
      cursor := session.cursor + 1 }
  else .error .sessionComplete

/-- Goes on without giving a color. -/
def skip (session : Session) : Except Violation Session :=
  if session.cursor < session.total then .ok { session with cursor := session.cursor + 1 }
  else .error .sessionComplete

/-- Goes back by one equation; the colors given stay. -/
def undo (session : Session) : Except Violation Session :=
  if session.cursor = 0 then .error .atFirstEquation
  else .ok { session with cursor := session.cursor - 1 }

/-- The programs of all equations, with the colors given so far. -/
def programs (session : Session) : List Chunk :=
  Chunk.ofEquations session.equations session.assignment

/-- What is shown of the equation under the cursor. -/
def currentView (session : Session) (equation : Equation) : CurrentEquation where
  equation := equation
  kind := .classify equation.expression
  preview := .ofEquation equation (session.currentColor?.getD .placeholder)
    (.ofPosition session.cursor)
  recorded := session.currentColor?

def view (session : Session) : SessionView where
  cursor := session.cursor
  total := session.total
  assigned := session.assignment.assigned
  current := session.current?.map session.currentView

end Session

end GraphPrograms
