import GraphPrograms.Proofs.Screen.Rows

/-!
Which cells change when printable ASCII is drawn.

A row that is no wider than its area stays in it wherever it is aligned.  So drawing lines, cut or
broken, leaves the cells outside the area as they are, and puts nothing but printable ASCII into
those inside (`Types`).
-/

namespace GraphPrograms

@[simp] theorem Area.contains_iff {area : Area} {column row : Nat} :
    area.contains column row = true ↔
      (area.left ≤ column ∧ column < area.left + area.width) ∧
        area.top ≤ row ∧ row < area.top + area.height := by
  simp [contains, and_assoc]

theorem Alignment.offset_add_le (alignment : Alignment) {width length : Nat}
    (within : length ≤ width) : alignment.offset width length + length ≤ width := by
  cases alignment <;> simp only [offset] <;> omega

namespace Canvas

variable {canvas before between after : Canvas} {area : Area} {symbols : List Symbol}
  {lines : List Line} {line : Line} {left column row other : Nat}

/-- A canvas on which nothing but printable ASCII was drawn, in an area. -/
structure Types (before after : Canvas) (area : Area) : Prop where
  outside : ∀ column row, area.contains column row = false →
    after.cell column row = before.cell column row
  inside : ∀ column row, (after.cell column row).symbol = (before.cell column row).symbol ∨
    Text.Typed (after.cell column row).symbol

theorem Types.refl (canvas : Canvas) (area : Area) : canvas.Types canvas area :=
  ⟨fun _ _ _ => rfl, fun _ _ => .inl rfl⟩

theorem Types.trans (first : before.Types between area) (second : between.Types after area) :
    before.Types after area where
  outside := fun column row apart =>
    (second.outside column row apart).trans (first.outside column row apart)
  inside := by
    intro column row
    rcases second.inside column row with same | typed
    · rw [same]
      exact first.inside column row
    · exact .inr typed

theorem cell_write (narrow : ∀ symbol ∈ symbols, symbol.Narrow) (left row column other : Nat) :
    (canvas.write left row symbols).cell column other =
      match if other = row ∧ left ≤ column then symbols[column - left]? else none with
      | some symbol => (canvas.cell column other).write symbol.text symbol.style
      | none => canvas.cell column other := by
  simp only [write, Symbol.lookup_placed narrow]
  by_cases here : other = row
  · subst here
    by_cases starts : left ≤ column
    · cases symbols[column - left]? <;> simp [starts]
    · simp [starts]
  · simp [here]

theorem cell_write_of_lt (narrow : ∀ symbol ∈ symbols, symbol.Narrow) (starts : left ≤ column)
    (ends : column < left + symbols.length) :
    ∃ symbol ∈ symbols, (canvas.write left row symbols).cell column row =
      (canvas.cell column row).write symbol.text symbol.style := by
  have inside : column - left < symbols.length := by omega
  refine ⟨symbols[column - left], List.getElem_mem inside, ?_⟩
  rw [cell_write narrow, if_pos ⟨rfl, starts⟩, List.getElem?_eq_getElem inside]

theorem cell_write_of_outside (narrow : ∀ symbol ∈ symbols, symbol.Narrow)
    (outside : ¬ (other = row ∧ left ≤ column ∧ column < left + symbols.length)) :
    (canvas.write left row symbols).cell column other = canvas.cell column other := by
  rw [cell_write narrow]
  by_cases here : other = row ∧ left ≤ column
  · have beyond : symbols.length ≤ column - left := by
      by_contra inside
      exact outside ⟨here.1, here.2, by omega⟩
    rw [if_pos here, List.getElem?_eq_none beyond]
  · rw [if_neg here]

theorem typed_write (narrow : ∀ symbol ∈ symbols, symbol.Narrow) (starts : left ≤ column)
    (ends : column < left + symbols.length) :
    Text.Typed ((canvas.write left row symbols).cell column row).symbol := by
  obtain ⟨symbol, member, written⟩ : ∃ symbol ∈ symbols,
      (canvas.write left row symbols).cell column row =
        (canvas.cell column row).write symbol.text symbol.style :=
    cell_write_of_lt narrow starts ends
  rw [written]
  exact (narrow symbol member).typed

theorem types_write (narrow : ∀ symbol ∈ symbols, symbol.Narrow)
    (inside : ∀ column, left ≤ column → column < left + symbols.length →
      area.contains column row = true) :
    canvas.Types (canvas.write left row symbols) area where
  outside := by
    intro column other apart
    refine cell_write_of_outside narrow ?_
    rintro ⟨rfl, starts, ends⟩
    rw [inside column starts ends] at apart
    contradiction
  inside := by
    intro column other
    by_cases here : other = row ∧ left ≤ column ∧ column < left + symbols.length
    · obtain ⟨rfl, starts, ends⟩ := here
      exact .inr (typed_write narrow starts ends)
    · exact .inl (by rw [cell_write_of_outside narrow here])

theorem types_writeRows {rows : List (List Symbol)} (alignment : Alignment)
    (fits : ∀ symbols ∈ rows, symbols.length ≤ area.width ∧ ∀ symbol ∈ symbols, symbol.Narrow) :
    canvas.Types (canvas.writeRows area alignment rows) area := by
  have placed : ∀ entry ∈ (rows.take area.height).zipIdx, entry.2 < area.height ∧
      entry.1.length ≤ area.width ∧ ∀ symbol ∈ entry.1, symbol.Narrow := by
    intro entry member
    have inside := List.snd_lt_of_mem_zipIdx member
    rw [List.length_take] at inside
    exact ⟨by omega, fits entry.1 (List.mem_of_mem_take (List.fst_mem_of_mem_zipIdx member))⟩
  unfold writeRows
  -- Each row is drawn over what the rows before it have left.
  generalize (rows.take area.height).zipIdx = entries at placed
  induction entries generalizing canvas with
  | nil => exact .refl canvas area
  | cons entry entries ih =>
      obtain ⟨⟨low, narrower, narrow⟩, rest⟩ := List.forall_mem_cons.mp placed
      refine (types_write narrow fun column starts ends => ?_).trans (ih rest)
      have aligned := alignment.offset_add_le narrower
      rw [Symbol.columns_of_narrow narrow] at starts ends
      rw [Area.contains_iff]
      omega

theorem types_writeLines (alignment : Alignment) (typed : ∀ line ∈ lines, line.Typed) :
    canvas.Types (canvas.writeLines area alignment lines) area := by
  refine types_writeRows alignment (List.forall_mem_map.mpr fun line member => ?_)
  have narrow := Symbol.narrow_of_mem_line (typed line member)
  rw [Symbol.fitting_of_narrow narrow (Nat.le_refl _)]
  exact ⟨List.length_take_le _ _, fun symbol inside => narrow symbol (List.mem_of_mem_take inside)⟩

theorem types_writeWrapped (alignment : Alignment) (typed : ∀ line ∈ lines, line.Typed) :
    canvas.Types (canvas.writeWrapped area alignment lines) area := by
  unfold writeWrapped
  split
  · exact .refl canvas area
  · rename_i visible
    refine types_writeRows alignment (List.forall_mem_flatMap.mpr fun line member => ?_)
    exact Line.fits_of_mem_wrap (typed line member) (Nat.pos_of_ne_zero visible)

theorem writeLines_of_flat (flat : area.height = 0) (alignment : Alignment) :
    canvas.writeLines area alignment lines = canvas := by
  rw [writeLines, writeRows, flat]
  rfl

/-- A line that is not aligned starts where its area does. -/
theorem writeLines_left (typed : line.Typed) (tall : 0 < area.height) :
    canvas.writeLines area .left [line] =
      canvas.write area.left area.top (line.symbols.take area.width) := by
  obtain ⟨height, tall⟩ := Nat.exists_eq_add_one_of_ne_zero (Nat.ne_of_gt tall)
  rw [writeLines, writeRows, tall, List.map_singleton, List.take_succ_cons, List.take_nil,
    Symbol.fitting_of_narrow (Symbol.narrow_of_mem_line typed) (Nat.le_refl _)]
  rfl

theorem cell_writeLines_left (canvas : Canvas) (area : Area) (typed : line.Typed)
    (tall : 0 < area.height) (column row : Nat) :
    let drawn := canvas.writeLines area .left [line]
    let covered := row = area.top ∧ area.left ≤ column ∧
      column < area.left + min area.width line.symbols.length
    (covered → Text.Typed (drawn.cell column row).symbol) ∧
      (¬ covered → drawn.cell column row = canvas.cell column row) := by
  intro drawn covered
  have narrow : ∀ symbol ∈ line.symbols.take area.width, symbol.Narrow :=
    fun symbol inside => Symbol.narrow_of_mem_line typed symbol (List.mem_of_mem_take inside)
  simp only [drawn, covered, writeLines_left typed tall, ← List.length_take]
  refine ⟨?_, cell_write_of_outside narrow⟩
  rintro ⟨rfl, starts, ends⟩
  exact typed_write narrow starts ends

end Canvas

end GraphPrograms
