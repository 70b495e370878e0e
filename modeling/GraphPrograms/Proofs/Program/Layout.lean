import GraphPrograms.Proofs.Program.Chunking
import GraphPrograms.Proofs.Review.Unbroken

/-!
The lines of a program, read back from its text.

A program has two lines for an equation and fourteen at its end, and what it is made of has no line
feed in it.  So splitting its text gives its lines again, whatever a user typed for colors.
-/

namespace GraphPrograms

variable {α β : Type}

/-- Items that all become the same number of things keep their places among them. -/
theorem getElem?_flatMap_of_length {f : α → List β} {width : Nat}
    (even : ∀ item, (f item).length = width) (items : List α) (position : Nat) {offset : Nat}
    (inside : offset < width) :
    (items.flatMap f)[width * position + offset]? =
      items[position]?.bind fun item => (f item)[offset]? := by
  induction items generalizing position with
  | nil => simp
  | cons item rest ih =>
      rw [List.flatMap_cons]
      cases position with
      | zero =>
          rw [List.getElem?_append_left (by rw [even]; omega)]
          simp
      | succ position =>
          have beyond : width * (position + 1) + offset - width = width * position + offset := by
            rw [Nat.mul_succ]
            omega
          rw [List.getElem?_append_right (by rw [even, Nat.mul_succ]; omega), even, beyond, ih]
          simp

namespace Slot

theorem typed_name (slot : Slot) : Text.Typed slot.name := by
  simp [name]

theorem name_ofPosition {position : Nat} (inside : position < slotCount) :
    (ofPosition position).name = 'Y' :: Text.ofNat position := by
  have here : (ofPosition position).val = position := Nat.mod_eq_of_lt inside
  rw [name, here]

end Slot

namespace InstructionPair

/-- The lines of an equation are made of the equation, its color and printable ASCII. -/
theorem mem_of_mem_lines {equation : Equation} {color : Color} {slot : Slot} {line : Text}
    {character : Char} (strange : ¬ Text.isTyped character = true)
    (member : line ∈ (ofEquation equation color slot).lines) (inside : character ∈ line) :
    character ∈ equation.expression ∨ character ∈ equation.constraint ∨
      character ∈ color.token := by
  have absent : ∀ {text : Text}, Text.Typed text → character ∉ text :=
    fun typed present => strange (typed character present)
  have named := absent slot.typed_name
  obtain ⟨expression, constraint⟩ := equation.mem_of_mem_normalize strange
  simp only [lines, instructions, ofEquation, List.map_cons, List.map_nil, List.mem_cons,
    List.not_mem_nil, or_false] at member
  rcases member with rfl | rfl
  · unfold Instruction.line at inside
    simp only [List.mem_append] at inside
    rcases inside with ((((fixed | renamed) | fixed) | renamed) | fixed) | name
    · exact absurd fixed (absent (by decide))
    · exact .inl (expression renamed)
    · exact absurd fixed (absent (by decide))
    · exact .inr (.inl (constraint renamed))
    · exact absurd fixed (absent (by decide))
    · exact absurd name named
  · unfold Instruction.line at inside
    simp only [List.mem_append] at inside
    rcases inside with (((fixed | name) | fixed) | token) | fixed
    · exact absurd fixed (absent (by decide))
    · exact absurd name named
    · exact absurd fixed (absent (by decide))
    · exact .inr (.inr token)
    · exact absurd fixed (absent (by decide))

theorem lineFeed_not_mem_lines {equation : Equation} {color : Color} (slot : Slot)
    (unbroken : equation.Unbroken) (free : '\n' ∉ color.token) :
    ∀ line ∈ (ofEquation equation color slot).lines, '\n' ∉ line := by
  intro line member inside
  rcases mem_of_mem_lines (by decide) member inside with expression | constraint | token
  · exact unbroken.expression expression
  · exact unbroken.constraint constraint
  · exact free token

theorem length_lines (pair : InstructionPair) : pair.lines.length = 2 := rfl

theorem lines_ofEquation (equation : Equation) (color : Color) {position : Nat}
    (inside : position < slotCount) :
    (ofEquation equation color (.ofPosition position)).lines =
      ["\"piecewise(".toList ++ equation.normalize.expression ++ [','] ++
          equation.normalize.constraint ++ ")\"->Y".toList ++ Text.ofNat position,
        "GraphColor(Y".toList ++ Text.ofNat position ++ [','] ++ color.token ++ [')']] := by
  have named := Slot.name_ofPosition inside
  simp only [lines, instructions, ofEquation, List.map_cons, List.map_nil]
  unfold Instruction.line
  simp [named]

/-- The lines of equations that take the slots from the first on. -/
theorem flatMap_lines_mapIdx {equations : List Equation} (fits : equations.length ≤ slotCount)
    (color : Color) :
    (equations.mapIdx fun position equation =>
        ofEquation equation color (.ofPosition position)).flatMap lines =
      (equations.mapIdx fun position equation =>
        ["\"piecewise(".toList ++ equation.normalize.expression ++ [','] ++
            equation.normalize.constraint ++ ")\"->Y".toList ++ Text.ofNat position,
          "GraphColor(Y".toList ++ Text.ofNat position ++ [','] ++ color.token ++
            [')']]).flatten := by
  rw [List.flatMap_def]
  refine congrArg List.flatten (List.ext_getElem (by simp) fun position inside _ => ?_)
  rw [List.length_map, List.length_mapIdx] at inside
  rw [List.getElem_map, List.getElem_mapIdx, List.getElem_mapIdx]
  exact lines_ofEquation _ _ (Nat.lt_of_lt_of_le inside fits)

end InstructionPair

namespace Chunk

variable {equations : List Equation} {assignment : Assignment} {chunk : Chunk} {index : Nat}

theorem lines_eq (chunk : Chunk) :
    chunk.lines = chunk.pairs.flatMap InstructionPair.lines ++ trailer.map Instruction.line := by
  rw [lines, instructions, List.map_append, List.map_flatMap]
  rfl

theorem length_pairLines (chunk : Chunk) :
    (chunk.pairs.flatMap InstructionPair.lines).length = 2 * chunk.equationCount := by
  simp [List.length_flatMap, InstructionPair.lines, InstructionPair.instructions, equationCount,
    Nat.mul_comm]

/-- The text of a program splits into its lines if no line has a line feed in it. -/
theorem splitOn_text (free : ∀ line ∈ chunk.lines, '\n' ∉ line) :
    chunk.text.splitOn '\n' = chunk.lines := by
  refine List.splitOn_intercalate '\n' free fun empty => ?_
  simp [lines_eq, trailer] at empty

theorem lineFeed_not_mem_lines (unbroken : ∀ equation ∈ equations, equation.Unbroken)
    (colors : assignment.Unbroken)
    (found : (ofEquations equations assignment)[index]? = some chunk) :
    ∀ line ∈ chunk.lines, '\n' ∉ line := by
  intro line member
  rw [lines_eq, List.mem_append] at member
  rcases member with ofPair | atEnd
  · obtain ⟨pair, paired, inside⟩ := List.mem_flatMap.mp ofPair
    obtain ⟨position, placed⟩ := List.mem_iff_getElem?.mp paired
    rw [getElem?_pairs found] at placed
    split at placed
    · obtain ⟨equation, listed, rfl⟩ := Option.map_eq_some_iff.mp placed
      have whole := unbroken equation (List.mem_of_getElem? listed)
      exact InstructionPair.lineFeed_not_mem_lines _ whole (colors.resolved _) line inside
    · contradiction
  · have free : ∀ line ∈ trailer.map Instruction.line, '\n' ∉ line := by decide
    exact free line atEnd

/-- The two lines of the equation at a position of a program. -/
theorem getElem?_lines (found : (ofEquations equations assignment)[index]? = some chunk)
    {position : Nat} (inside : position < chunk.equationCount) :
    ∃ equation, equations[slotCount * index + position]? = some equation ∧
      chunk.lines[2 * position]? = some ("\"piecewise(".toList ++ equation.normalize.expression ++
        [','] ++ equation.normalize.constraint ++ ")\"->Y".toList ++ Text.ofNat position) ∧
      chunk.lines[2 * position + 1]? = some ("GraphColor(Y".toList ++ Text.ofNat position ++
        [','] ++ (assignment.resolved (slotCount * index + position)).token ++ [')']) := by
  have fits := length_pairLines chunk
  have placed := getElem?_pairs found position
  rw [List.getElem?_eq_getElem inside] at placed
  split at placed
  · rename_i slotted
    obtain ⟨equation, listed, paired⟩ := Option.map_eq_some_iff.mp placed.symm
    -- Both lines at once; the trailer is out of reach of them.
    have written : ∀ offset < 2, chunk.lines[2 * position + offset]? =
        (InstructionPair.ofEquation equation (assignment.resolved (slotCount * index + position))
          (.ofPosition position)).lines[offset]? := by
      intro offset first
      rw [lines_eq, List.getElem?_append_left (by omega),
        getElem?_flatMap_of_length InstructionPair.length_lines _ _ first,
        List.getElem?_eq_getElem inside, ← paired]
      rfl
    rw [InstructionPair.lines_ofEquation _ _ slotted] at written
    exact ⟨equation, listed, written 0 (by decide), written 1 (by decide)⟩
  · contradiction

theorem drop_lines (chunk : Chunk) :
    chunk.lines.drop (2 * chunk.equationCount) = trailer.map Instruction.line := by
  rw [lines_eq, ← length_pairLines, List.drop_left]

theorem length_lines (chunk : Chunk) : chunk.lines.length = 2 * chunk.equationCount + 14 := by
  rw [lines_eq, List.length_append, length_pairLines]
  rfl

end Chunk

namespace Review

/-- Every program of a review of the equations in a file has its two lines for each equation and
its fourteen at the end, and not one more, whatever the file says and whatever the user does. -/
theorem programs_keep_their_lines {disk : Disk} {path : Path} {plain : Bool} {sheet : Sheet}
    (loaded : Storage.load disk path plain = .ok sheet) (settings : Settings)
    (source? : Option (Path × Nat)) (later : Disk) (events : List Event) :
    let session := ((opened sheet.equations settings source?).run later events).1.session
    ∀ (index : Nat) (chunk : Chunk), session.programs[index]? = some chunk →
      let lines := chunk.text.splitOn '\n'
      lines.length = 2 * chunk.equationCount + 14 ∧
      (∀ position < chunk.equationCount, ∃ equation,
        sheet.equations[10 * index + position]? = some equation ∧
        lines[2 * position]? = some ("\"piecewise(".toList ++ equation.normalize.expression ++
          [','] ++ equation.normalize.constraint ++ ")\"->Y".toList ++ Text.ofNat position) ∧
        lines[2 * position + 1]? = some ("GraphColor(Y".toList ++ Text.ofNat position ++ [','] ++
          (session.assignment.resolved (10 * index + position)).token ++ [')'])) ∧
      lines.drop (2 * chunk.equationCount) =
        ["DispGraph".toList, "RecallPic 0".toList, "StorePic 0".toList, "ClrDraw".toList,
          "DelVar Y0".toList, "DelVar Y1".toList, "DelVar Y2".toList, "DelVar Y3".toList,
          "DelVar Y4".toList, "DelVar Y5".toList, "DelVar Y6".toList, "DelVar Y7".toList,
          "DelVar Y8".toList, "DelVar Y9".toList] := by
  intro session index chunk found lines
  have unbroken : Unbroken sheet.equations session _ := unbroken_run later events
  rw [Session.programs, unbroken.equations_eq] at found
  have whole : lines = chunk.lines := Chunk.splitOn_text <|
    Chunk.lineFeed_not_mem_lines (Equation.unbroken_of_load loaded) unbroken.colors found
  rw [whole]
  exact ⟨chunk.length_lines, fun position inside => Chunk.getElem?_lines found inside,
    chunk.drop_lines⟩

/-- A color pasted over two lines. -/
theorem programs_keep_their_lines_pasted :
    let disk : Disk := { root := .folder [("in".toList, .file (Text.encode "y = x\n".toList))] }
    let settings : Settings :=
      { input := .ofString "in", rejects := .ofString "bad", plain := false, layout := {},
        policy := .any, look := {} }
    let sheet : Sheet := ⟨[⟨['x'], []⟩], []⟩
    let session := ((opened sheet.equations settings none).run disk
      [.paste "re\nd".toList, .key { key := .enter }]).1.session
    Storage.load disk settings.input false = .ok sheet ∧
    ∃ chunk, session.programs[0]? = some chunk ∧
      (chunk.text.splitOn '\n').length = 16 ∧
      (chunk.text.splitOn '\n')[1]? = some "GraphColor(Y0,RED)".toList := by
  intro disk settings sheet session
  have content : disk.readText settings.input = .ok "y = x\n".toList := Disk.readText_of_read rfl
  have loaded : Storage.load disk settings.input false = .ok sheet := by
    rw [Storage.load, Storage.readLines, content]
    rfl
  have colored : session = ⟨sheet.equations, ⟨[some ⟨"RED".toList⟩]⟩, 1⟩ := by
    decide +kernel
  have programs := Chunk.ofEquations_eq_map sheet.equations ⟨[some ⟨"RED".toList⟩]⟩
  have found : session.programs[0]? = some (Chunk.assemble 1
      [(⟨['x'], []⟩, ⟨"RED".toList⟩)]) := by
    rw [colored, Session.programs, programs]
    decide +kernel
  obtain ⟨length, pairs, _⟩ := programs_keep_their_lines loaded settings none disk
    [.paste "re\nd".toList, .key { key := .enter }] 0 _ found
  obtain ⟨_, _, _, coloring⟩ := pairs 0 (by decide)
  have red : (session.assignment.resolved 0).token = "RED".toList := by
    rw [colored]
    rfl
  refine ⟨loaded, _, found, length, coloring.trans ?_⟩
  change some ("GraphColor(Y".toList ++ Text.ofNat 0 ++ [','] ++
    (session.assignment.resolved 0).token ++ [')']) = _
  rw [red]
  decide

end Review

end GraphPrograms
