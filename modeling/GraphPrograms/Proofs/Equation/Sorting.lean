import GraphPrograms.Equation.Sheet

/-!
A sheet as filters of the lines it is made of.

Sorting looks at lines one by one from the last to the first; said of the list as a whole, the
equations are what the lines that are not blank parse to, and the rejects those that parse to
nothing, both in the order of the lines.
-/

namespace GraphPrograms.Sheet

/-- The lines with something on them. -/
def kept (lines : List Text) : List Text := lines.filter (!Text.isAllBlank ·)

/-- The equations that lines parse to. -/
def accepted (lines : List Text) : List Equation :=
  lines.filterMap fun line => (Equation.parse line).toOption

/-- The lines that parse to no equation. -/
def rejected (lines : List Text) : List Text :=
  lines.filter fun line => (Equation.parse line).toOption.isNone

variable {number : Nat} {lines : List Text}

theorem kept_cons (line : Text) (lines : List Text) :
    kept (line :: lines) = if Text.isAllBlank line then kept lines else line :: kept lines := by
  unfold kept
  cases blank : Text.isAllBlank line <;> simp [blank]

theorem equations_ofLinesFrom (number : Nat) (lines : List Text) :
    (ofLinesFrom number lines).equations = accepted (kept lines) := by
  induction lines generalizing number with
  | nil => rfl
  | cons line rest ih =>
      rw [ofLinesFrom, addLine, kept_cons]
      split
      · exact ih (number + 1)
      · cases read : Equation.parse line <;> simp [accepted, read, Except.toOption, ih]

theorem map_text_ofLinesFrom (number : Nat) (lines : List Text) :
    (ofLinesFrom number lines).rejects.map Reject.text = rejected (kept lines) := by
  induction lines generalizing number with
  | nil => rfl
  | cons line rest ih =>
      rw [ofLinesFrom, addLine, kept_cons]
      split
      · exact ih (number + 1)
      · cases read : Equation.parse line <;> simp [rejected, read, Except.toOption, ih]

theorem length_accepted_add (lines : List Text) :
    (accepted lines).length + (rejected lines).length = lines.length := by
  induction lines with
  | nil => rfl
  | cons line rest ih =>
      cases read : Equation.parse line <;>
        simp [accepted, rejected, read, Except.toOption] at ih ⊢ <;> omega

theorem kept_subset (lines : List Text) : kept lines ⊆ lines := List.filter_sublist.subset

theorem rejected_subset (lines : List Text) : rejected lines ⊆ lines := List.filter_sublist.subset

theorem exists_line_of_mem_equations {equation : Equation}
    (member : equation ∈ (ofLinesFrom number lines).equations) :
    ∃ line ∈ lines, Equation.parse line = .ok equation := by
  rw [equations_ofLinesFrom, accepted, List.mem_filterMap] at member
  obtain ⟨line, listed, found⟩ := member
  refine ⟨line, kept_subset lines listed, ?_⟩
  cases read : Equation.parse line with
  | error reason => simp [read, Except.toOption] at found
  | ok equation =>
      simp only [read, Except.toOption, Option.some.injEq] at found
      rw [found]

end GraphPrograms.Sheet
