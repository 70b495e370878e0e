import GraphPrograms.Proofs.Program.Layout

/-!
The preview of an equation and the program it will be in.

The preview finds its slot and its color by itself, while programs are cut off the whole list.  Both
come down to the same pair of lines, but for the color of an equation that has none: the preview
shows a word there that no color can be.
-/

namespace GraphPrograms

/-- The placeholder is in small letters, and no given color is. -/
theorem Color.ofText_ne_placeholder (text : Text) : Color.ofText text ≠ .placeholder := by
  simp only [Color.ofText]
  split
  · decide
  · intro same
    have word : Text.upper (Text.trim text) = "color".toList := congrArg Color.token same
    have letter : 'c' ∈ Text.upper (Text.trim text) := by
      rw [word]
      decide
    have capital := Text.upperChar_of_mem_upper letter
    exact absurd capital (by decide +kernel)

theorem Slot.ofPosition_mod (position : Nat) :
    Slot.ofPosition (position % slotCount) = Slot.ofPosition position :=
  Fin.ext (Nat.mod_mod position slotCount)

namespace Chunk

variable {equations : List Equation} {assignment : Assignment} {chunk : Chunk} {position : Nat}

theorem exists_chunk (assignment : Assignment) (inside : position < equations.length) :
    ∃ chunk, (ofEquations equations assignment)[position / slotCount]? = some chunk ∧
      position % slotCount < chunk.equationCount := by
  have place := Nat.div_add_mod position slotCount
  have started : slotCount * (position / slotCount) < equations.length := by omega
  have counted : position / slotCount < (ofEquations equations assignment).length := by
    rw [length_ofEquations]
    exact lt_countFor_iff.mpr started
  have found := List.getElem?_eq_getElem counted
  have slotted : position % slotCount < slotCount := Nat.mod_lt _ (by decide)
  have pair := getElem?_pairs found (position % slotCount)
  rw [if_pos slotted, place, List.getElem?_eq_getElem inside, Option.map_some] at pair
  obtain ⟨fits, _⟩ := List.getElem?_eq_some_iff.mp pair
  exact ⟨_, found, fits⟩

theorem color_of_mem_instructions {slot : Slot} {color : Color}
    (member : chunk ∈ ofEquations equations assignment)
    (colored : .graphColor slot color ∈ chunk.instructions) :
    ∃ position, color = assignment.resolved position := by
  obtain ⟨index, found⟩ := List.mem_iff_getElem?.mp member
  rcases List.mem_append.mp colored with ofPair | atEnd
  · obtain ⟨pair, paired, inside⟩ := List.mem_flatMap.mp ofPair
    obtain ⟨position, placed⟩ := List.mem_iff_getElem?.mp paired
    rw [getElem?_pairs found] at placed
    split at placed
    · obtain ⟨equation, _, rfl⟩ := Option.map_eq_some_iff.mp placed
      simp only [InstructionPair.instructions, InstructionPair.ofEquation, List.mem_cons,
        reduceCtorEq, Instruction.graphColor.injEq, List.not_mem_nil, or_false, false_or] at inside
      exact ⟨_, inside.2⟩
    · contradiction
  · simp [trailer] at atEnd

end Chunk

namespace Session

variable {session : Session}

theorem lines_preview (session : Session) (equation : Equation) :
    (session.currentView equation).preview.lines =
      ["\"piecewise(".toList ++ equation.normalize.expression ++ [','] ++
          equation.normalize.constraint ++ ")\"->Y".toList ++
          Text.ofNat (session.cursor % slotCount),
        "GraphColor(Y".toList ++ Text.ofNat (session.cursor % slotCount) ++ [','] ++
          (session.currentColor?.getD .placeholder).token ++ [')']] := by
  rw [currentView, ← Slot.ofPosition_mod]
  exact InstructionPair.lines_ofEquation _ _ (Nat.mod_lt _ (by decide))

theorem ne_placeholder_of_run (equations : List Equation) (moves : List Move) (index : Nat) :
    ((ofEquations equations).run moves).assignment.get? index ≠ some .placeholder := by
  rw [get?_run_ofEquations]
  intro found
  obtain ⟨text, _, named⟩ := Option.map_eq_some_iff.mp found
  exact Color.ofText_ne_placeholder text named

/-- The preview of the equation under the cursor is what its program has for it, and stands for a
missing color by a word that no program has for one. -/
theorem preview_agrees_with_programs (equations : List Equation) (moves : List Move) :
    let session := (ofEquations equations).run moves
    (session.cursor < equations.length →
      ∃ (current : CurrentEquation) (chunk : Chunk) (first second : Text),
        session.view.current = some current ∧
        equations[session.cursor]? = some current.equation ∧
        current.recorded = session.assignment.get? session.cursor ∧
        session.programs[session.cursor / 10]? = some chunk ∧
        chunk.lines[2 * (session.cursor % 10)]? = some first ∧
        chunk.lines[2 * (session.cursor % 10) + 1]? = some second ∧
        (∀ color, current.recorded = some color → current.preview.lines = [first, second]) ∧
        (current.recorded = none →
          second = "GraphColor(Y".toList ++ Text.ofNat (session.cursor % 10) ++ [','] ++
            "BLACK".toList ++ [')'] ∧
          current.preview.lines =
            [first, "GraphColor(Y".toList ++ Text.ofNat (session.cursor % 10) ++ [','] ++
              "color".toList ++ [')']])) ∧
    (∀ index, session.assignment.get? index ≠ some .placeholder) ∧
    ∀ chunk ∈ session.programs, ∀ (slot : Slot) (color : Color),
      Instruction.graphColor slot color ∈ chunk.instructions → color ≠ .placeholder := by
  intro session
  have unchanged : session.equations = equations := by simp only [session, run_eq]; rfl
  refine ⟨?preview, ne_placeholder_of_run equations moves, ?programs⟩
  case preview =>
    intro inside
    obtain ⟨chunk, found, fits⟩ := Chunk.exists_chunk session.assignment inside
    obtain ⟨equation, listed, first, second⟩ := Chunk.getElem?_lines found fits
    rw [Nat.div_add_mod] at listed second
    have current : session.view.current = some (session.currentView equation) := by
      rw [view, current?, unchanged, listed]
      rfl
    have written : session.programs[session.cursor / 10]? = some chunk := by
      rw [programs, unchanged]
      exact found
    have previewed := session.lines_preview equation
    refine ⟨_, chunk, _, _, current, listed, rfl, written, first, second, ?given, ?missing⟩
    case given =>
      intro color recorded
      have same : session.assignment.resolved session.cursor =
          session.currentColor?.getD .placeholder := by
        have given : session.assignment.get? session.cursor = some color := recorded
        simp [Assignment.resolved, currentColor?, given]
      rw [previewed, same]
    case missing =>
      intro unset
      have absent : session.assignment.get? session.cursor = none := unset
      rw [previewed]
      simp only [Assignment.resolved, currentColor?, absent]
      exact ⟨rfl, rfl⟩
  case programs =>
    intro chunk member slot color colored
    obtain ⟨position, rfl⟩ := Chunk.color_of_mem_instructions member colored
    unfold Assignment.resolved
    cases found : session.assignment.get? position with
    | none => decide
    | some color =>
        rintro rfl
        exact ne_placeholder_of_run equations moves position found

/-- The eleventh equation is the first of the second program, here with a color that was taken back
to look at, and the twelfth has none. -/
theorem preview_agrees_with_programs_eleventh :
    let equations : List Equation := List.replicate 12 ⟨['x'], []⟩
    let back : List Move := List.replicate 10 .skip ++ [.submit "red".toList, .undo]
    let on : List Move := List.replicate 11 .skip
    let colored := (ofEquations equations).run back
    let uncolored := (ofEquations equations).run on
    (∃ (current : CurrentEquation) (chunk : Chunk) (first second : Text),
      colored.view.current = some current ∧
      current.recorded = some ⟨"RED".toList⟩ ∧ colored.programs[1]? = some chunk ∧
      chunk.lines[0]? = some first ∧ chunk.lines[1]? = some second ∧
      current.preview.lines = [first, second]) ∧
    (∃ (current : CurrentEquation) (chunk : Chunk) (first : Text),
      uncolored.view.current = some current ∧
      current.recorded = none ∧ uncolored.programs[1]? = some chunk ∧
      chunk.lines[2]? = some first ∧ chunk.lines[3]? = some "GraphColor(Y1,BLACK)".toList ∧
      current.preview.lines = [first, "GraphColor(Y1,color)".toList]) ∧
    ∀ chunk ∈ colored.programs, ∀ (slot : Slot) (color : Color),
      Instruction.graphColor slot color ∈ chunk.instructions → color ≠ .placeholder := by
  intro equations back on colored uncolored
  have tenth : colored.cursor = 10 := by decide +kernel
  have eleventh : uncolored.cursor = 11 := by decide +kernel
  obtain ⟨previewed, _, programs⟩ := preview_agrees_with_programs equations back
  obtain ⟨unset, _, _⟩ := preview_agrees_with_programs equations on
  refine ⟨?colored, ?uncolored, programs⟩
  case colored =>
    obtain ⟨current, chunk, first, second, shown, _, recorded, written, top, bottom, given, _⟩ :=
      previewed (by rw [tenth]; decide)
    rw [tenth] at recorded written top bottom
    have red : current.recorded = some ⟨"RED".toList⟩ := recorded.trans (by decide +kernel)
    exact ⟨current, chunk, first, second, shown, red, written, top, bottom, given _ red⟩
  case uncolored =>
    obtain ⟨current, chunk, first, second, shown, _, recorded, written, top, bottom, _, missing⟩ :=
      unset (by rw [eleventh]; decide)
    rw [eleventh] at recorded written top bottom missing
    have blank : current.recorded = none := recorded.trans (by decide +kernel)
    obtain ⟨black, placeholder⟩ := missing blank
    rw [black] at bottom
    exact ⟨current, chunk, first, shown, blank, written, top, bottom, placeholder⟩

end Session

end GraphPrograms
