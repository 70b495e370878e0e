import GraphPrograms.Proofs.Equation.Grammar
import GraphPrograms.Proofs.Text.Characters
import GraphPrograms.Proofs.Text.Trim

/-!
Writing an equation and reading it back.

The two printers differ in the gap they leave before a constraint, and a gap of blanks is nothing
to the grammar.  What reading yields is exactly what comes back from writing.
-/

namespace GraphPrograms.Equation

variable {equation : Equation} {line gap : Text}

theorem wellFormed_of_spells (spells : Spells line equation) : equation.WellFormed := by
  obtain ⟨_, _, runFree, _, visible, constrains⟩ := spells
  have expressionFree := fun inside => runFree (Text.trim_subset _ inside)
  cases constrains with
  | body encloses =>
      obtain ⟨_, bodyFree, _⟩ := encloses
      have constraintFree := fun inside => bodyFree (Text.trim_subset _ inside)
      exact ⟨visible, Text.trim_trim _, expressionFree, Text.trim_trim _, constraintFree⟩
  | free => exact ⟨visible, Text.trim_trim _, expressionFree, rfl, List.not_mem_nil⟩

/-- The constraint in braces behind a gap, and nothing at all for an empty one. -/
def clauseText (gap : Text) (equation : Equation) : Text :=
  if equation.hasConstraint then gap ++ ['{'] ++ equation.constraint ++ ['}'] else []

theorem toLine_eq (equation : Equation) :
    equation.toLine = "y = ".toList ++ equation.expression ++ equation.clauseText [] := rfl

theorem display_eq (equation : Equation) :
    equation.display = "y = ".toList ++ equation.expression ++ equation.clauseText [' '] := rfl

/-- An equation behind its sign, cut where its constraint begins. -/
theorem spells_of_run {run tail : Text} (wellFormed : equation.WellFormed)
    (trimmed : Text.trim run = equation.expression) (runFree : '{' ∉ run)
    (start : tail = [] ∨ tail.head? = some '{') (constrains : Constrains tail equation.constraint) :
    Spells ("y =".toList ++ (run ++ tail)) equation := by
  have space : ∀ character ∈ [' '], Text.isBlank character :=
    List.forall_mem_singleton.mpr (by decide)
  have visible : Text.trim run ≠ [] := by
    rw [trimmed]
    exact wellFormed.expression_ne_nil
  have spells : Spells ("y =".toList ++ (run ++ tail)) ⟨Text.trim run, equation.constraint⟩ :=
    @Spells.line [] [' '] run tail _ (by simp) space runFree start visible constrains
  rwa [trimmed] at spells

theorem spells_written (wellFormed : equation.WellFormed)
    (blank : ∀ character ∈ gap, Text.isBlank character) :
    Spells ("y = ".toList ++ equation.expression ++ equation.clauseText gap) equation := by
  have space : ∀ character ∈ [' '], Text.isBlank character :=
    List.forall_mem_singleton.mpr (by decide)
  have expression : Text.trim ([' '] ++ equation.expression) = equation.expression :=
    (Text.trim_append_left space _).trans wellFormed.expression_trimmed
  have expressionFree : '{' ∉ [' '] ++ equation.expression := by
    simpa using wellFormed.expression_free
  -- Without a constraint there is no gap either, and the line ends with the expression.
  by_cases empty : equation.constraint = []
  · have nothing : ∀ body, ¬ Encloses [] body := by
      rintro body ⟨_, _, ignored, written⟩
      exact List.cons_ne_nil _ _ written.symm
    have constrains : Constrains [] equation.constraint := by
      rw [empty]
      exact .free nothing
    have spells := spells_of_run wellFormed expression expressionFree (.inl rfl) constrains
    simpa [clauseText, hasConstraint, empty] using spells
  · have gapFree : '{' ∉ gap := fun inside => absurd (blank '{' inside) (by decide)
    have encloses : Encloses ('{' :: (equation.constraint ++ ['}'])) equation.constraint :=
      ⟨empty, wellFormed.constraint_free, [], rfl⟩
    have constrains := Constrains.body encloses
    rw [wellFormed.constraint_trimmed] at constrains
    have trimmed : Text.trim ([' '] ++ equation.expression ++ gap) = equation.expression :=
      (Text.trim_append_right _ blank).trans expression
    have runFree : '{' ∉ [' '] ++ equation.expression ++ gap := by
      rw [List.mem_append, not_or]
      exact ⟨expressionFree, gapFree⟩
    have spells := spells_of_run wellFormed trimmed runFree (.inr rfl) constrains
    simpa [clauseText, hasConstraint, empty] using spells

theorem parse_toLine (wellFormed : equation.WellFormed) : parse equation.toLine = .ok equation := by
  rw [parse_eq_ok_iff, toLine_eq]
  exact spells_written wellFormed (List.forall_mem_nil _)

theorem parse_display (wellFormed : equation.WellFormed) :
    parse equation.display = .ok equation := by
  rw [parse_eq_ok_iff, display_eq]
  exact spells_written wellFormed (List.forall_mem_singleton.mpr (by decide))

theorem exists_parse_eq_ok_iff : (∃ line, parse line = .ok equation) ↔ equation.WellFormed := by
  constructor
  · rintro ⟨line, read⟩
    exact wellFormed_of_spells (parse_eq_ok_iff.mp read)
  · intro wellFormed
    exact ⟨equation.toLine, parse_toLine wellFormed⟩

/-- Reading undoes writing for exactly the equations that reading yields, and so neither form, nor
the two forms together, can stand for two of them. -/
theorem parse_inverts_writing :
    (∀ equation, (∃ line, parse line = .ok equation) ↔ equation.WellFormed) ∧
      (∀ equation : Equation, equation.WellFormed →
        parse equation.toLine = .ok equation ∧ parse equation.display = .ok equation) ∧
      ∀ left right : Equation, left.WellFormed → right.WellFormed →
        left.toLine = right.toLine ∨ left.display = right.display ∨ left.toLine = right.display →
          left = right := by
  refine ⟨fun equation => exists_parse_eq_ok_iff,
    fun equation wellFormed => ⟨parse_toLine wellFormed, parse_display wellFormed⟩, ?_⟩
  intro left right leftFormed rightFormed shared
  rcases shared with lines | displays | both
  · have read := parse_toLine leftFormed
    rw [lines, parse_toLine rightFormed] at read
    exact (Except.ok.inj read).symm
  · have read := parse_display leftFormed
    rw [displays, parse_display rightFormed] at read
    exact (Except.ok.inj read).symm
  · have read := parse_toLine leftFormed
    rw [both, parse_display rightFormed] at read
    exact (Except.ok.inj read).symm

/-- Braces on the wrong sides, a wide blank inside, and a second equation without a constraint. -/
theorem parse_inverts_writing_braces :
    let left : Equation := ⟨"x\x7d\u3000+ 1".toList, "\x7ba = b".toList⟩
    let right : Equation := ⟨"x\x7d\u3000+ 1".toList, []⟩
    left.WellFormed ∧ right.WellFormed ∧
      parse left.toLine = .ok left ∧ parse right.display = .ok right ∧
      left.toLine ≠ right.toLine := by
  intro left right
  have leftFormed : left.WellFormed :=
    ⟨by decide, by decide, by decide, by decide, by decide⟩
  have rightFormed : right.WellFormed :=
    ⟨by decide, by decide, by decide, by decide, by decide⟩
  obtain ⟨_, reads, separates⟩ := parse_inverts_writing
  refine ⟨leftFormed, rightFormed, (reads left leftFormed).1, (reads right rightFormed).2, ?_⟩
  intro same
  have one := separates left right leftFormed rightFormed (.inl same)
  exact absurd one (by decide)

end GraphPrograms.Equation
