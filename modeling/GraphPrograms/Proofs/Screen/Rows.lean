import GraphPrograms.Proofs.Text.Ascii
import GraphPrograms.Screen.Wrap

/-!
The rows that printable ASCII is drawn in.

Its symbols take one column each, so a row of them has as many columns as symbols.  A line that is
cut to a width keeps its first symbols (`fitting_of_narrow`).  One that is broken keeps to the width
because a row is finished as soon as it is full with what is behind it (`Fits.step`).
-/

namespace GraphPrograms

/-- A symbol of printable ASCII, which takes one column. -/
structure Symbol.Narrow (symbol : Symbol) : Prop where
  width_eq : symbol.width = 1
  typed : Text.Typed symbol.text

/-- A line of printable ASCII. -/
def Line.Typed (line : Line) : Prop := ∀ span ∈ line, Text.Typed span.text

instance (line : Line) : Decidable line.Typed := List.decidableBAll _ _

theorem Line.typed_single {span : Span} (typed : Text.Typed span.text) : Line.Typed [span] :=
  List.forall_mem_singleton.mpr typed

theorem Span.symbols_of_typed {span : Span} (typed : Text.Typed span.text) :
    span.symbols = span.text.map fun character => ⟨[character], 1, span.style⟩ := by
  have shown : (span.text.map ([·])).filter (!·.any Text.isControl) = span.text.map ([·]) := by
    rw [List.filter_eq_self, List.forall_mem_map]
    intro character inside
    simp [Text.not_isControl_of_isTyped (typed character inside)]
  rw [symbols, Text.clusters_of_typed typed, shown, List.map_map]
  refine List.map_congr_left fun character inside => ?_
  have single : Text.Typed [character] := by simpa using typed character inside
  simp only [Function.comp_apply, Text.width_of_typed single, List.length_singleton]

namespace Symbol

variable {symbols row : List Symbol} {symbol : Symbol} {width room left : Nat}

theorem narrow_of_mem_line {line : Line} (typed : line.Typed) :
    ∀ symbol ∈ line.symbols, symbol.Narrow := by
  intro symbol member
  obtain ⟨span, listed, inside⟩ := List.mem_flatMap.mp member
  rw [Span.symbols_of_typed (typed span listed)] at inside
  obtain ⟨character, written, rfl⟩ := List.mem_map.mp inside
  exact ⟨rfl, by simpa using typed span listed character written⟩

theorem columns_of_narrow (narrow : ∀ symbol ∈ symbols, symbol.Narrow) :
    columns symbols = symbols.length := by
  induction symbols with
  | nil => rfl
  | cons first rest ih =>
      obtain ⟨firstNarrow, restNarrow⟩ := List.forall_mem_cons.mp narrow
      rw [columns, firstNarrow.width_eq, ih restNarrow, List.length_cons, Nat.add_comm]

theorem fitting_of_narrow (narrow : ∀ symbol ∈ symbols, symbol.Narrow) (within : room ≤ width) :
    fitting width room symbols = symbols.take room := by
  induction symbols generalizing room with
  | nil => simp [fitting]
  | cons first rest ih =>
      obtain ⟨firstNarrow, restNarrow⟩ := List.forall_mem_cons.mp narrow
      rw [fitting, firstNarrow.width_eq]
      cases room with
      | zero =>
          split
          · exact ih restNarrow within
          · rfl
      | succ room =>
          rw [if_neg (by omega), if_neg (by omega), Nat.add_sub_cancel, List.take_succ_cons,
            ih restNarrow (by omega)]

theorem lookup_placed (narrow : ∀ symbol ∈ symbols, symbol.Narrow) (left column : Nat) :
    (placed left symbols).lookup column =
      if left ≤ column then symbols[column - left]? else none := by
  induction symbols generalizing left with
  | nil => simp [placed]
  | cons first rest ih =>
      obtain ⟨firstNarrow, restNarrow⟩ := List.forall_mem_cons.mp narrow
      rw [placed, firstNarrow.width_eq, if_neg (by decide), List.lookup_cons, ih restNarrow]
      rcases Nat.lt_trichotomy column left with before | rfl | behind
      · rw [beq_eq_false_iff_ne.mpr (by omega), if_neg (by omega), if_neg (by omega)]
      · simp
      · rw [beq_eq_false_iff_ne.mpr (by omega), if_pos (by omega), if_pos (by omega),
          show column - left = column - (left + 1) + 1 by omega, List.getElem?_cons_succ]

end Symbol

namespace Wrapping

variable {state : Wrapping} {symbol : Symbol} {width room : Nat}

/-- A breaking whose rows are no wider than the area, the one under way with all that is behind it
among them. -/
structure Fits (width : Nat) (state : Wrapping) : Prop where
  rows : ∀ row ∈ state.rows, row.length ≤ width ∧ ∀ symbol ∈ row, symbol.Narrow
  whole : state.whole.length ≤ width
  narrow : ∀ symbol ∈ state.whole, symbol.Narrow

theorem dropFitting_suffix (room : Nat) (blanks : List Symbol) :
    dropFitting room blanks <:+ blanks := by
  induction blanks generalizing room with
  | nil => exact List.suffix_refl _
  | cons blank rest ih =>
      rw [dropFitting]
      split
      · exact (ih _).trans (List.suffix_cons blank rest)
      · exact List.suffix_refl _

theorem length_whole (state : Wrapping) :
    state.whole.length = state.row.length + state.blanks.length + state.word.length := by
  simp [whole, Nat.add_assoc]

theorem Fits.row_narrow (fits : state.Fits width) : ∀ symbol ∈ state.row, symbol.Narrow :=
  fun symbol inside => fits.narrow symbol
    (List.mem_append_left _ (List.mem_append_left _ inside))

theorem Fits.settle (fits : state.Fits width) : state.settle.Fits width where
  rows := fits.rows
  whole := by simpa [Wrapping.settle, Wrapping.whole] using fits.whole
  narrow := by simpa [Wrapping.settle, Wrapping.whole] using fits.narrow

theorem length_whole_push (state : Wrapping) (symbol : Symbol) :
    (state.push symbol).whole.length = state.whole.length + 1 := by
  unfold push
  split
  · simp [whole, Nat.add_assoc]
  · simp [whole, Nat.add_assoc]

theorem mem_whole_push {other : Symbol} (inside : other ∈ (state.push symbol).whole) :
    other ∈ state.whole ∨ other = symbol := by
  unfold push at inside
  split at inside <;>
  · simp only [whole, List.mem_append, List.mem_singleton] at inside ⊢
    grind

theorem rows_push (state : Wrapping) (symbol : Symbol) :
    (state.push symbol).rows = state.rows := by
  unfold push
  split <;> rfl

theorem Fits.push (fits : state.Fits width) (narrow : symbol.Narrow)
    (room : state.whole.length < width) : (state.push symbol).Fits width where
  rows := by
    rw [rows_push]
    exact fits.rows
  whole := by
    rw [length_whole_push]
    exact room
  narrow := by
    intro other inside
    rcases mem_whole_push inside with before | rfl
    · exact fits.narrow other before
    · exact narrow

/-- What is left of a row that is finished, if it is not the empty row. -/
theorem Fits.finishRow (fits : state.Fits width) (visible : state.row ≠ []) :
    (state.finishRow width).Fits width ∧ (state.finishRow width).whole.length < width := by
  have shorter := (dropFitting_suffix (width - Symbol.columns state.row) state.blanks).length_le
  have lengths := state.length_whole
  have whole := fits.whole
  have some := List.length_pos_iff.mpr visible
  have left : (state.finishRow width).whole.length ≤ state.blanks.length + state.word.length := by
    simpa [Wrapping.finishRow, Wrapping.whole] using shorter
  refine ⟨⟨?_, by omega, ?_⟩, by omega⟩
  · intro row member
    rcases List.mem_append.mp member with before | here
    · exact fits.rows row before
    · rw [List.mem_singleton.mp here]
      exact ⟨by omega, fits.row_narrow⟩
  · intro symbol inside
    refine fits.narrow symbol ?_
    simp only [Wrapping.finishRow, Wrapping.whole, List.nil_append, List.mem_append] at inside ⊢
    rcases inside with blank | word
    · exact .inl (.inr ((dropFitting_suffix _ _).subset blank))
    · exact .inr word

theorem Fits.row_ne_nil (fits : state.Fits width) (narrow : symbol.Narrow) (visible : 0 < width)
    (full : (if state.settles width symbol then state.settle else state).isFull width symbol) :
    (if state.settles width symbol then state.settle else state).row ≠ [] := by
  intro empty
  have settled : (if state.settles width symbol then state.settle else state).Fits width := by
    split
    · exact fits.settle
    · exact fits
  simp only [isFull, empty, Symbol.columns, Symbol.columns_of_narrow settled.narrow,
    narrow.width_eq, Bool.or_eq_true, Bool.and_eq_true, decide_eq_true_eq] at full
  -- The row is full with what is behind it, so that it would have been taken into the row.
  split at empty
  · rename_i settles
    rw [if_pos settles] at full
    have nothing : state.settle.whole = [] := by
      simpa [Wrapping.settle, Wrapping.whole] using empty
    rw [nothing] at full
    simp at full
    omega
  · rename_i stays
    rw [if_neg stays] at full
    have whole := fits.whole
    simp only [settles, empty, List.isEmpty_nil, Symbol.columns_of_narrow fits.narrow,
      narrow.width_eq, Bool.true_and, Bool.or_eq_true, Bool.and_eq_true, decide_eq_true_eq,
      not_or] at stays
    omega

theorem Fits.step (fits : state.Fits width) (narrow : symbol.Narrow) (visible : 0 < width) :
    (Wrapping.step width state symbol).Fits width := by
  have row := fits.row_ne_nil narrow visible
  have settled : (if state.settles width symbol then state.settle else state).Fits width := by
    split
    · exact fits.settle
    · exact fits
  rw [Wrapping.step, if_neg (by rw [narrow.width_eq]; omega)]
  generalize (if state.settles width symbol then state.settle else state) = next at row settled ⊢
  simp only
  split
  · rename_i full
    obtain ⟨finished, room⟩ := settled.finishRow (row full)
    split
    · exact finished
    · exact finished.push narrow room
  · rename_i notFull
    refine settled.push narrow ?_
    simp only [isFull, Symbol.columns_of_narrow settled.narrow, narrow.width_eq, Bool.or_eq_true,
      Bool.and_eq_true, decide_eq_true_eq, not_or] at notFull
    omega

theorem Fits.foldl (fits : state.Fits width) {symbols : List Symbol}
    (narrow : ∀ symbol ∈ symbols, symbol.Narrow) (visible : 0 < width) :
    (symbols.foldl (Wrapping.step width) state).Fits width := by
  induction symbols generalizing state with
  | nil => exact fits
  | cons first rest ih =>
      obtain ⟨firstNarrow, restNarrow⟩ := List.forall_mem_cons.mp narrow
      exact ih (fits.step firstNarrow visible) restNarrow

theorem Fits.finish (fits : state.Fits width) :
    ∀ row ∈ state.finish, row.length ≤ width ∧ ∀ symbol ∈ row, symbol.Narrow := by
  have rows : ∀ row ∈ state.rows ++ (if state.whole.isEmpty then [] else [state.whole]),
      row.length ≤ width ∧ ∀ symbol ∈ row, symbol.Narrow := by
    refine List.forall_mem_append.mpr ⟨fits.rows, ?_⟩
    split
    · exact List.forall_mem_nil _
    · exact List.forall_mem_singleton.mpr ⟨fits.whole, fits.narrow⟩
  unfold Wrapping.finish
  generalize state.rows ++ (if state.whole.isEmpty then [] else [state.whole]) = all at rows ⊢
  simp only
  split
  · simp
  · exact rows

end Wrapping

theorem Line.fits_of_mem_wrap {line : Line} {width : Nat} (typed : line.Typed)
    (visible : 0 < width) :
    ∀ row ∈ line.wrap width, row.length ≤ width ∧ ∀ symbol ∈ row, symbol.Narrow := by
  have begun : ({} : Wrapping).Fits width :=
    ⟨by simp, by simp [Wrapping.whole], by simp [Wrapping.whole]⟩
  exact (begun.foldl (Symbol.narrow_of_mem_line typed) visible).finish

end GraphPrograms
