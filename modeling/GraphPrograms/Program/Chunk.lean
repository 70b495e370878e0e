import GraphPrograms.Color.Assignment
import GraphPrograms.Program.Instruction

/-!
Programs: the equations of a list in chunks of at most ten, each chunk a program of its own.

The slots start anew in every chunk, while colors are looked up by the place of an equation in the
whole list.
-/

namespace GraphPrograms

/-- One program, numbered from one. -/
structure Chunk where
  number : Nat
  pairs : List InstructionPair
deriving DecidableEq, Repr

/-- More equations than a program holds. -/
structure ChunkOverflow where
  count : Nat
deriving DecidableEq, Repr

def ChunkOverflow.message (error : ChunkOverflow) : Text :=
  "a program chunk holds at most ".toList ++ Text.ofNat slotCount ++ " equations (got ".toList ++
    Text.ofNat error.count ++ [')']

namespace Chunk

def equationCount (chunk : Chunk) : Nat := chunk.pairs.length

/-- Every instruction in order: the pairs, then the trailer. -/
def instructions (chunk : Chunk) : List Instruction :=
  chunk.pairs.flatMap InstructionPair.instructions ++ trailer

def lines (chunk : Chunk) : List Text := chunk.instructions.map Instruction.line

/-- The text of the program, without a line feed at its end. -/
def text (chunk : Chunk) : Text := Text.ofLines chunk.lines

/-- Puts entries into the slots in order; entries beyond the last slot are left out. -/
def assemble (number : Nat) (entries : List (Equation × Color)) : Chunk where
  number := number
  pairs := entries.zipWith (fun entry slot => .ofEquation entry.1 entry.2 slot) Slot.all

/-- The program of at most ten entries. -/
def ofEntries (number : Nat) (entries : List (Equation × Color)) : Except ChunkOverflow Chunk :=
  if entries.length > slotCount then .error ⟨entries.length⟩ else .ok (assemble number entries)

/-- The number of programs that equations need. -/
def countFor (equations : Nat) : Nat := (equations + slotCount - 1) / slotCount

/-- A list in groups of ten, the last of them with what is left. -/
def groups {α : Type} (items : List α) : List (List α) :=
  match items with
  | [] => []
  | first :: rest =>
      (first :: rest).take slotCount :: groups (rest.drop (slotCount - 1))
termination_by items.length
decreasing_by
  simp only [List.length_drop, List.length_cons]
  omega

/-- The equations of a list, each with the color it has there. -/
def entries (equations : List Equation) (assignment : Assignment) : List (Equation × Color) :=
  equations.mapIdx fun index equation => (equation, assignment.resolved index)

/-- The programs of a list of equations, numbered from one. -/
def ofEquations (equations : List Equation) (assignment : Assignment) : List Chunk :=
  (groups (entries equations assignment)).mapIdx fun index group => assemble (index + 1) group

end Chunk

end GraphPrograms
