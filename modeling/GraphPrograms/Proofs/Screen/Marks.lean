import GraphPrograms.Proofs.Screen.Writing
import GraphPrograms.Screen.Gauge
import GraphPrograms.Screen.Panel

/-!
Which cells of a screen hold something else than ASCII.

Drawing printable ASCII where there are no such cells brings none (`Marked.of_types`).  A panel
brings the sides of its frame as far as the title leaves them free, and a gauge brings the part of
its bar that is not under the label.  A screen that is drawn from top to bottom has such cells only
above what comes next (`MarkedAbove`).
-/

namespace GraphPrograms

namespace Area

variable {area : Area} {column row : Nat} {side : Char}

/-- A cell in the upper side of a panel that its title covers, with a space before and behind. -/
def Titled (area : Area) (title : Text) (column row : Nat) : Prop :=
  row = area.top ∧ area.left + 1 ≤ column ∧
    column < area.left + 1 + min (area.width - 2) (title.length + 2)

/-- A cell in the frame of a panel that its title leaves free. -/
def Framed (area : Area) (title : Text) (column row : Nat) : Prop :=
  area.contains column row = true ∧ area.frame? column row ≠ none ∧ ¬ area.Titled title column row

instance (area : Area) (title : Text) (column row : Nat) :
    Decidable (area.Titled title column row) :=
  inferInstanceAs (Decidable (_ ∧ _))

instance (area : Area) (title : Text) (column row : Nat) :
    Decidable (area.Framed title column row) :=
  inferInstanceAs (Decidable (_ ∧ _))

theorem not_ascii_of_frame? (found : area.frame? column row = some side) :
    ¬ Text.Ascii [side] := by
  have listed : side ∈ ['╭', '╰', '╮', '╯', '│', '─'] := by
    unfold frame? at found
    grind
  simp only [List.mem_cons, List.not_mem_nil, or_false] at listed
  rcases listed with rfl | rfl | rfl | rfl | rfl | rfl <;> decide

theorem frame?_of_content (inside : area.content.contains column row = true) :
    area.frame? column row = none := by
  simp only [content, contains_iff] at inside
  unfold frame?
  simp only [beq_eq_false_iff_ne.mpr (show column ≠ area.left by omega),
    beq_eq_false_iff_ne.mpr (show column + 1 ≠ area.left + area.width by omega),
    beq_eq_false_iff_ne.mpr (show row ≠ area.top by omega),
    beq_eq_false_iff_ne.mpr (show row + 1 ≠ area.top + area.height by omega)]
  rfl

theorem framed_corner (title : Text) (wide : 0 < area.width) (tall : 0 < area.height) :
    area.Framed title area.left area.top := by
  refine ⟨contains_iff.mpr (by omega), ?_, fun titled => ?_⟩
  · simp [frame?]
  · exact Nat.not_succ_le_self _ titled.2.1

end Area

/-- A cell of the bar of a gauge that is neither under the label nor right behind it. -/
def Gauge.Solid (area : Area) (part whole : Nat) (label : Text) (column row : Nat) : Prop :=
  let room := min area.width label.length
  let start := area.left + (area.width - room) / 2
  ({ area with width := length area.width part whole } : Area).contains column row = true ∧
    (column < start ∨ start + room < column)

instance (area : Area) (part whole : Nat) (label : Text) (column row : Nat) :
    Decidable (Gauge.Solid area part whole label column row) :=
  inferInstanceAs (Decidable (_ ∧ _))

namespace Canvas

variable {canvas before after : Canvas} {area : Area} {marks : Nat → Nat → Prop}
  {title label : Text}

/-- The cells of a canvas that hold something else than ASCII are the marked ones. -/
def Marked (canvas : Canvas) (marks : Nat → Nat → Prop) : Prop :=
  ∀ column row, Text.Ascii (canvas.cell column row).symbol ↔ ¬ marks column row

theorem marked_blank : blank.Marked fun _ _ => False := by
  intro column row
  have space : Text.Ascii [' '] := by decide
  exact iff_of_true space not_false

theorem symbol_change (canvas : Canvas) (area : Area) (next : Nat → Nat → Cell → Cell)
    (column row : Nat) :
    ((canvas.change area next).cell column row).symbol =
      if area.contains column row then (next column row (canvas.cell column row)).symbol
      else (canvas.cell column row).symbol := by
  simp only [change]
  split <;> rfl

@[simp] theorem symbol_fill (canvas : Canvas) (area : Area) (style : Style) (column row : Nat) :
    ((canvas.fill area style).cell column row).symbol = (canvas.cell column row).symbol := by
  rw [fill, symbol_change, Cell.symbol_restyle, ite_self]

theorem Marked.fill (marked : canvas.Marked marks) (area : Area) (style : Style) :
    (canvas.fill area style).Marked marks := by
  intro column row
  rw [symbol_fill]
  exact marked column row

theorem Marked.of_types (marked : before.Marked marks) (types : before.Types after area)
    (clear : ∀ column row, area.contains column row = true → ¬ marks column row) :
    after.Marked marks := by
  intro column row
  cases inside : area.contains column row with
  | false =>
      rw [types.outside column row inside]
      exact marked column row
  | true =>
      have free := clear column row inside
      rcases types.inside column row with same | typed
      · rw [same]
        exact marked column row
      · exact iff_of_true typed.ascii free

theorem Marked.writeLines (marked : canvas.Marked marks) {lines : List Line}
    (typed : ∀ line ∈ lines, line.Typed) (alignment : Alignment)
    (clear : ∀ column row, area.contains column row = true → ¬ marks column row) :
    (canvas.writeLines area alignment lines).Marked marks :=
  marked.of_types (types_writeLines alignment typed) clear

/-- Before it has a title, a panel is marked on all sides. -/
theorem Marked.frame (marked : canvas.Marked marks) (area : Area) (palette : Palette) :
    ((canvas.fill area (.panel palette)).change area fun column row cell =>
      match area.frame? column row with
      | some side => cell.write [side] (.border palette)
      | none => cell).Marked fun column row =>
        marks column row ∨ area.contains column row = true ∧ area.frame? column row ≠ none := by
  intro column row
  rw [symbol_change]
  by_cases inside : area.contains column row = true
  · rw [if_pos inside]
    cases found : area.frame? column row with
    | none =>
        have unframed : ¬ (area.contains column row = true ∧ area.frame? column row ≠ none) :=
          fun framed => framed.2 found
        simpa only [symbol_fill, or_iff_left unframed] using marked column row
    | some side =>
        exact iff_of_false (Area.not_ascii_of_frame? found)
          (not_not.mpr (.inr ⟨inside, by simp [found]⟩))
  · have unframed : ¬ (area.contains column row = true ∧ area.frame? column row ≠ none) :=
      fun framed => inside framed.1
    simpa only [if_neg inside, symbol_fill, or_iff_left unframed] using marked column row

theorem Marked.writePanel (marked : canvas.Marked marks) (palette : Palette)
    (typed : Text.Typed title)
    (clear : ∀ column row, area.contains column row = true → ¬ marks column row) :
    (canvas.writePanel area palette title).Marked fun column row =>
      marks column row ∨ area.Framed title column row := by
  have framed := marked.frame area palette
  unfold Canvas.writePanel
  generalize (canvas.fill area (.panel palette)).change area _ = canvas at framed ⊢
  have lineTyped : Line.Typed [⟨[' '] ++ title ++ [' '], .title palette⟩] :=
    Line.typed_single (by simpa using typed)
  have length : (Line.symbols [⟨[' '] ++ title ++ [' '], .title palette⟩]).length =
      title.length + 2 := by
    simp [Line.symbols, Span.symbols_of_typed, typed]
  intro column row
  by_cases tall : 0 < area.height
  · obtain ⟨covered, free⟩ := cell_writeLines_left canvas
      ⟨area.left + 1, area.top, area.width - 2, min area.height 1⟩ lineTyped
      (Nat.lt_min.mpr ⟨tall, Nat.one_pos⟩) column row
    rw [length] at covered free
    by_cases titled : area.Titled title column row
    · have inside : area.contains column row = true := by
        obtain ⟨rfl, starts, ends⟩ := titled
        rw [Area.contains_iff]
        omega
      exact iff_of_true (covered titled).ascii
        (not_or.mpr ⟨clear column row inside, fun framed => framed.2.2 titled⟩)
    · simp only [free titled, framed column row, Area.Framed, titled, not_false_iff, and_true]
  · -- There is no side for the title to stand in, and no frame.
    have flat : area.height = 0 := by omega
    have nowhere : area.contains column row = false := by
      rw [← Bool.not_eq_true, Area.contains_iff]
      omega
    simpa [writeLines_of_flat, flat, Area.Framed, nowhere] using framed column row

theorem Marked.writeGauge (marked : canvas.Marked marks) (ink ground : Tint) (part whole : Nat)
    (typed : Text.Typed label)
    (clear : ∀ column row, area.top ≤ row → row < area.top + area.height → ¬ marks column row) :
    (canvas.writeGauge area ink ground part whole label).Marked fun column row =>
      marks column row ∨ Gauge.Solid area part whole label column row := by
  unfold Canvas.writeGauge
  simp only [Text.width_of_typed typed]
  refine Marked.of_types (fun column row => ?_) (types_writeLines .left ?_) ?_
  · rw [symbol_change]
    unfold Gauge.Solid
    simp only
    split
    · rename_i inside
      obtain ⟨_, lower, upper⟩ := Area.contains_iff.mp inside
      have free := clear column row lower upper
      split
      · rename_i beside
        have strange : ¬ Text.Ascii ['█'] := by decide
        exact iff_of_false strange (not_not.mpr (.inr ⟨inside, beside⟩))
      · rename_i under
        have space : Text.Ascii [' '] := by decide
        exact iff_of_true space (not_or.mpr ⟨free, fun solid => under solid.2⟩)
    · rename_i outside
      rw [symbol_fill, marked column row, or_iff_left fun solid => outside solid.1]
  · simpa [Line.Typed] using typed
  · intro column row inside
    simp only [Area.contains_iff] at inside
    rintro (mark | ⟨_, beside⟩)
    · exact clear column row inside.2.1 inside.2.2 mark
    · omega

/-- A canvas that is marked only above a row. -/
structure MarkedAbove (canvas : Canvas) (bound : Nat) (marks : Nat → Nat → Prop) : Prop where
  marked : canvas.Marked marks
  above : ∀ column row, marks column row → row < bound

theorem MarkedAbove.congr {bound : Nat} {others : Nat → Nat → Prop}
    (drawn : canvas.MarkedAbove bound marks)
    (same : ∀ column row, marks column row ↔ others column row) :
    canvas.MarkedAbove bound others where
  marked := fun column row => (drawn.marked column row).trans (not_congr (same column row))
  above := fun column row mark => drawn.above column row ((same column row).mpr mark)

theorem MarkedAbove.clear {bound : Nat} (drawn : canvas.MarkedAbove bound marks)
    (below : ∀ column row, area.contains column row = true → bound ≤ row) :
    ∀ column row, area.contains column row = true → ¬ marks column row := by
  intro column row inside mark
  have above := drawn.above column row mark
  have lower := below column row inside
  omega

/-- A panel below all marks brings its frame, whatever printable ASCII is drawn inside. -/
theorem MarkedAbove.panel (area : Area) (drawn : canvas.MarkedAbove area.top marks)
    (palette : Palette) (typed : Text.Typed title)
    (types : (canvas.writePanel area palette title).Types after area.content) :
    after.MarkedAbove (area.top + area.height) fun column row =>
      marks column row ∨ area.Framed title column row where
  marked := by
    have clear := drawn.clear fun column row inside => (Area.contains_iff.mp inside).2.1
    refine (drawn.marked.writePanel palette typed clear).of_types types ?_
    rintro column row inside (mark | framed)
    · have above := drawn.above column row mark
      simp only [Area.content, Area.contains_iff] at inside
      omega
    · exact framed.2.1 (Area.frame?_of_content inside)
  above := by
    rintro column row (mark | framed)
    · exact Nat.lt_add_right _ (drawn.above column row mark)
    · exact (Area.contains_iff.mp framed.1).2.2

theorem MarkedAbove.writeGauge (area : Area) (drawn : canvas.MarkedAbove area.top marks)
    (ink ground : Tint) (part whole : Nat) (typed : Text.Typed label) :
    (canvas.writeGauge area ink ground part whole label).MarkedAbove (area.top + area.height)
      fun column row => marks column row ∨ Gauge.Solid area part whole label column row where
  marked := by
    refine drawn.marked.writeGauge ink ground part whole typed fun column row lower _ mark => ?_
    exact Nat.not_lt.mpr lower (drawn.above column row mark)
  above := by
    rintro column row (mark | solid)
    · exact Nat.lt_add_right _ (drawn.above column row mark)
    · exact (Area.contains_iff.mp solid.1).2.2

end Canvas

end GraphPrograms
