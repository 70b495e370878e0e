import GraphPrograms.Proofs.Equation.Sorting
import Mathlib.Data.List.TakeWhile

/-!
The numbers of rejects.

A reject says where it comes from: its number leads back to its line, whatever the lines above it
are (`mem_rejects_iff`).  Lines that are put above a sheet move its rejects down and change nothing
else, so the sheet of two lists of lines is one sheet above the other (`ofLinesFrom_append`).
-/

namespace GraphPrograms

theorem Equation.parse_of_isAllBlank {line : Text} (blank : Text.isAllBlank line = true) :
    Equation.parse line = .error .noMatch := by
  have nothing : Text.trimStart line = [] := by
    rw [Text.trimStart, List.dropWhile_eq_nil_iff]
    exact List.all_eq_true.mp blank
  rw [Equation.parse, nothing]
  rfl

namespace Sheet

variable {number : Nat} {lines : List Text} {reject : Reject}

/-- The sheet with that many lines above it. -/
def lowered (sheet : Sheet) (count : Nat) : Sheet where
  equations := sheet.equations
  rejects := sheet.rejects.map fun reject => { reject with number := reject.number + count }

/-- One sheet above another. -/
def above (upper lower : Sheet) : Sheet where
  equations := upper.equations ++ lower.equations
  rejects := upper.rejects ++ lower.rejects

theorem addLine_lowered (number count : Nat) (line : Text) (below : Sheet) :
    addLine (number + count) line (below.lowered count) =
      (addLine number line below).lowered count := by
  unfold addLine
  split
  · rfl
  · split <;> rfl

theorem addLine_above (number : Nat) (line : Text) (upper lower : Sheet) :
    addLine number line (upper.above lower) = (addLine number line upper).above lower := by
  unfold addLine
  split
  · rfl
  · split <;> rfl

theorem ofLinesFrom_add (number count : Nat) (lines : List Text) :
    ofLinesFrom (number + count) lines = (ofLinesFrom number lines).lowered count := by
  induction lines generalizing number with
  | nil => rfl
  | cons line rest ih =>
      rw [ofLinesFrom, ofLinesFrom, Nat.add_right_comm, ih, addLine_lowered]

theorem ofLinesFrom_append (number : Nat) (upper lower : List Text) :
    ofLinesFrom number (upper ++ lower) =
      (ofLinesFrom number upper).above ((ofLinesFrom number lower).lowered upper.length) := by
  induction upper generalizing number with
  | nil => simp [ofLinesFrom, above, lowered]
  | cons line rest ih =>
      rw [List.cons_append, ofLinesFrom, ih, addLine_above, ofLinesFrom, ← ofLinesFrom_add,
        ← ofLinesFrom_add, List.length_cons, Nat.add_right_comm, ← Nat.add_assoc]

theorem mem_rejects_addLine (line : Text) (below : Sheet) :
    reject ∈ (addLine number line below).rejects ↔
      reject.number = number ∧ line = reject.text ∧ Text.isAllBlank reject.text = false ∧
          Equation.parse reject.text = .error reject.reason ∨
        reject ∈ below.rejects := by
  unfold addLine
  cases blank : Text.isAllBlank line with
  | true => grind
  | false =>
      cases read : Equation.parse line with
      | ok equation => grind
      | error reason =>
          obtain ⟨position, text, why⟩ := reject
          grind

/-- The rejects are the lines that are neither blank nor equations, each with its number. -/
theorem mem_rejects_iff :
    reject ∈ (ofLinesFrom number lines).rejects ↔
      ∃ index, reject.number = number + index ∧ lines[index]? = some reject.text ∧
        Text.isAllBlank reject.text = false ∧
        Equation.parse reject.text = .error reject.reason := by
  induction lines generalizing number with
  | nil => simp [ofLinesFrom]
  | cons line rest ih =>
      rw [ofLinesFrom, mem_rejects_addLine, ih]
      refine .trans ?_ Nat.or_exists_add_one
      simp [Nat.add_assoc, Nat.add_comm 1]

theorem pairwise_number (number : Nat) (lines : List Text) :
    (ofLinesFrom number lines).rejects.Pairwise (·.number < ·.number) := by
  induction lines generalizing number with
  | nil => exact .nil
  | cons line rest ih =>
      have later : ∀ reject ∈ (ofLinesFrom (number + 1) rest).rejects, number < reject.number := by
        intro reject member
        obtain ⟨index, position, _⟩ := mem_rejects_iff.mp member
        omega
      rw [ofLinesFrom, addLine]
      split
      · exact ih (number + 1)
      · split
        · exact ih (number + 1)
        · exact .cons later (ih (number + 1))

/-- Every line that is not blank is an equation or a reject of its sheet, in the order of the lines,
and a blank line could be no equation.  The rejects are the lines with their numbers, so that lines
above others only move the rejects of these down. -/
theorem ofLines_accounts_for_lines (lines : List Text) :
    (ofLines lines).equations = accepted (kept lines) ∧
    (ofLines lines).rejects.map Reject.text = rejected (kept lines) ∧
    (ofLines lines).equations.length + (ofLines lines).rejects.length = (kept lines).length ∧
    (∀ reject, reject ∈ (ofLines lines).rejects ↔
      0 < reject.number ∧ lines[reject.number - 1]? = some reject.text ∧
        Text.isAllBlank reject.text = false ∧
        Equation.parse reject.text = .error reject.reason) ∧
    (ofLines lines).rejects.Pairwise (·.number < ·.number) ∧
    (∀ line, Text.isAllBlank line = true → Equation.parse line = .error .noMatch) ∧
    ∀ lower, ofLines (lines ++ lower) =
      (ofLines lines).above ((ofLines lower).lowered lines.length) := by
  refine ⟨equations_ofLinesFrom 1 lines, map_text_ofLinesFrom 1 lines, ?counts, fun reject => ?back,
    pairwise_number 1 lines, fun _ => Equation.parse_of_isAllBlank, ofLinesFrom_append 1 lines⟩
  case counts =>
    rw [← length_accepted_add, ← equations_ofLinesFrom 1, ← map_text_ofLinesFrom 1,
      List.length_map]
    rfl
  case back =>
    rw [ofLines, mem_rejects_iff]
    constructor
    · rintro ⟨index, position, read⟩
      have place : index = reject.number - 1 := by omega
      exact ⟨by omega, place ▸ read⟩
    · rintro ⟨positive, read⟩
      exact ⟨reject.number - 1, by omega, read⟩

end Sheet

end GraphPrograms
