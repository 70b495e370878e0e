import GraphPrograms.Color.Token

/-!
The colors given to the equations of a list, by index.
-/

namespace GraphPrograms

/-- One color or none for every equation. -/
structure Assignment where
  colors : List (Option Color)
deriving DecidableEq, Repr

namespace Assignment

/-- No color for any of `size` equations. -/
def blank (size : Nat) : Assignment := ⟨List.replicate size none⟩

def size (assignment : Assignment) : Nat := assignment.colors.length

/-- The color at an index; none where no color was given and outside the list. -/
def get? (assignment : Assignment) (index : Nat) : Option Color :=
  (assignment.colors[index]?).join

/-- The color an equation gets in a program. -/
def resolved (assignment : Assignment) (index : Nat) : Color :=
  (assignment.get? index).getD .fallback

/-- Gives the equation at `index` a color.  An index outside the list changes nothing. -/
def set (assignment : Assignment) (index : Nat) (color : Color) : Assignment :=
  ⟨assignment.colors.set index (some color)⟩

/-- The number of equations with a color. -/
def assigned (assignment : Assignment) : Nat := assignment.colors.countP Option.isSome

@[simp] theorem size_blank (size : Nat) : (blank size).size = size := by
  simp [blank, Assignment.size]

@[simp] theorem size_set (assignment : Assignment) (index : Nat) (color : Color) :
    (assignment.set index color).size = assignment.size := by
  simp [set, size]

@[simp] theorem get?_blank (size index : Nat) : (blank size).get? index = none := by
  simp [blank, get?, List.getElem?_replicate]
  split <;> rfl

theorem get?_set_self {assignment : Assignment} {index : Nat} (inside : index < assignment.size)
    (color : Color) : (assignment.set index color).get? index = some color := by
  simp only [size] at inside
  simp [set, get?, inside]

theorem get?_set_of_ne {assignment : Assignment} {index other : Nat} (different : index ≠ other)
    (color : Color) : (assignment.set index color).get? other = assignment.get? other := by
  simp [set, get?, List.getElem?_set_ne different]

theorem assigned_le_size (assignment : Assignment) : assignment.assigned ≤ assignment.size :=
  List.countP_le_length

end Assignment

end GraphPrograms
