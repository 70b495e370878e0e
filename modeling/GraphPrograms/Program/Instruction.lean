import GraphPrograms.Color.Token
import GraphPrograms.Equation.Normal

/-!
Instructions of a calculator program.

An equation takes two: one that stores it in a slot, one that colors the slot.  A program ends
with instructions that draw the graph, keep the picture and clear every slot, used or not.
-/

namespace GraphPrograms

/-- The number of slots of the calculator, and so of equations in a program. -/
def slotCount : Nat := 10

/-- An output variable of the calculator, `Y0` to `Y9`. -/
abbrev Slot := Fin slotCount

/-- A slot number that the calculator does not have. -/
structure SlotError where
  index : Nat
deriving DecidableEq, Repr

def SlotError.message (error : SlotError) : Text :=
  "slot index ".toList ++ Text.ofNat error.index ++ " is out of range (0-9)".toList

namespace Slot

def ofIndex (index : Nat) : Except SlotError Slot :=
  if inside : index < slotCount then .ok ⟨index, inside⟩ else .error ⟨index⟩

/-- The slot of the equation at a position of the whole list. -/
def ofPosition (position : Nat) : Slot := ⟨position % slotCount, Nat.mod_lt _ (by decide)⟩

def name (slot : Slot) : Text := 'Y' :: Text.ofNat slot.val

/-- All slots in order. -/
def all : List Slot := List.finRange slotCount

end Slot

inductive Instruction where
  | piecewise (expression constraint : Text) (slot : Slot)
  | graphColor (slot : Slot) (color : Color)
  | dispGraph
  | recallPic (picture : Nat)
  | storePic (picture : Nat)
  | clrDraw
  | delVar (slot : Slot)
deriving DecidableEq, Repr

/-- The line of program text of an instruction. -/
def Instruction.line : Instruction → Text
  | piecewise expression constraint slot =>
      "\"piecewise(".toList ++ expression ++ [','] ++ constraint ++ ")\"->".toList ++ slot.name
  | graphColor slot color =>
      "GraphColor(".toList ++ slot.name ++ [','] ++ color.token ++ [')']
  | dispGraph => "DispGraph".toList
  | recallPic picture => "RecallPic ".toList ++ Text.ofNat picture
  | storePic picture => "StorePic ".toList ++ Text.ofNat picture
  | clrDraw => "ClrDraw".toList
  | delVar slot => "DelVar ".toList ++ slot.name

/-- The two instructions of one equation. -/
structure InstructionPair where
  assignment : Instruction
  coloring : Instruction
deriving DecidableEq, Repr

namespace InstructionPair

def instructions (pair : InstructionPair) : List Instruction := [pair.assignment, pair.coloring]

def lines (pair : InstructionPair) : List Text := pair.instructions.map Instruction.line

/-- The instructions that put an equation, in the calculator's notation, and its color into a
slot. -/
def ofEquation (equation : Equation) (color : Color) (slot : Slot) : InstructionPair where
  assignment := .piecewise equation.normalize.expression equation.normalize.constraint slot
  coloring := .graphColor slot color

end InstructionPair

/-- The picture variable that keeps what was drawn before. -/
def backingPicture : Nat := 0

/-- The instructions at the end of every program. -/
def trailer : List Instruction :=
  [.dispGraph, .recallPic backingPicture, .storePic backingPicture, .clrDraw] ++
    Slot.all.map .delVar

end GraphPrograms
