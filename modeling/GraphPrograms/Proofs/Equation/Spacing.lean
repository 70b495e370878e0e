import GraphPrograms.Proofs.Equation.Grammar
import GraphPrograms.Proofs.Text.Compact

/-!
Reading an equation does not depend on how wide the blanks are.

The scanner stops at visible marks and trims what it finds between them.  A mark stays where it is
when a line is compacted, and what is compact around it differs by blanks at its ends only.
-/

namespace GraphPrograms

namespace Text

variable {mark : Char} {text blanks : Text}

theorem trimStart_append_left (blank : ∀ character ∈ blanks, isBlank character = true)
    (text : Text) : trimStart (blanks ++ text) = trimStart text :=
  List.dropWhile_append_of_pos blank

theorem cut?_eq_none_iff : cut? mark text = none ↔ mark ∉ text := by
  constructor
  · intro uncut inside
    obtain ⟨left, right, whole, free⟩ := List.eq_append_cons_of_mem inside
    rw [whole, cut?_append free] at uncut
    contradiction
  · intro free
    cases found : cut? mark text with
    | none => rfl
    | some parts =>
        obtain ⟨left, right⟩ := parts
        obtain ⟨_, whole⟩ := cut?_eq_some_iff.mp found
        exact absurd (whole ▸ by simp) free

end Text

namespace Equation

open Text (isBlank compact spaceBefore)

/-- The equation with its blanks made single spaces. -/
def respaced (equation : Equation) : Equation :=
  ⟨compact equation.expression, compact equation.constraint⟩

theorem expect_trimStart_compact (mark : Char) (line : Text) :
    expect mark (Text.trimStart (compact line)) =
      (expect mark (Text.trimStart line)).map fun rest => spaceBefore rest ++ compact rest := by
  induction line with
  | nil => rfl
  | cons first rest ih =>
      cases blank : isBlank first with
      | true => rw [Text.compact_cons_blank blank, ih, Text.trimStart, Text.trimStart,
          List.dropWhile_cons_of_pos blank]
      | false =>
          have stops : ¬ isBlank first = true := by simp [blank]
          rw [Text.compact_cons blank, Text.trimStart, Text.trimStart,
            List.dropWhile_cons_of_neg stops, List.dropWhile_cons_of_neg stops, expect, expect]
          split <;> rfl

/-- A compact text is cut at a visible mark where the text is. -/
theorem exists_cut_compact {mark : Char} {gap : Text} (visible : isBlank mark = false)
    (gapBlank : ∀ character ∈ gap, isBlank character = true) (text : Text) :
    ∃ run, Text.Padded (compact (text.takeWhile (· != mark))) run ∧
      (gap ++ compact text).takeWhile (· != mark) = run ∧
      (gap ++ compact text).dropWhile (· != mark) = compact (text.dropWhile (· != mark)) := by
  obtain ⟨run, padded, whole⟩ := Text.exists_padded_append gapBlank
    (text.takeWhile (· != mark)) (text.dropWhile (· != mark))
  rw [List.takeWhile_append_dropWhile] at whole
  have free := padded.not_mem_of_compact visible (Text.not_mem_takeWhile_ne mark text)
  have stop : compact (text.dropWhile (· != mark)) = [] ∨
      (compact (text.dropWhile (· != mark))).head? = some mark := by
    rcases Text.dropWhile_ne_start mark text with ends | starts
    · exact .inl (by rw [ends]; rfl)
    · obtain ⟨rest, stopped⟩ := List.head?_eq_some_iff.mp starts
      exact .inr (by rw [stopped, Text.compact_cons visible, List.head?_cons])
  obtain ⟨taken, dropped⟩ := Text.takeWhile_ne_append free stop
  exact ⟨run, padded, whole ▸ taken, whole ▸ dropped⟩

theorem clause_compact {tail : Text} (start : tail = [] ∨ tail.head? = some '{') :
    clause (compact tail) = compact (clause tail) := by
  rcases start with rfl | starts
  · rfl
  · obtain ⟨body, rfl⟩ := List.head?_eq_some_iff.mp starts
    have closes : isBlank '}' = false := by decide
    have gapBlank := Text.isBlank_spaceBefore body
    rw [Text.compact_cons (by decide), clause, clause]
    cases found : Text.cut? '}' body with
    | none =>
        have padded := (Text.Padded.refl (compact body)).append_left gapBlank
        have stillFree := padded.not_mem_of_compact closes (Text.cut?_eq_none_iff.mp found)
        rw [Text.cut?_eq_none_iff.mpr stillFree]
        rfl
    | some parts =>
        obtain ⟨inner, ignored⟩ := parts
        obtain ⟨free, rfl⟩ := Text.cut?_eq_some_iff.mp found
        obtain ⟨part, padded, whole⟩ := Text.exists_padded_append gapBlank inner ('}' :: ignored)
        have stillFree := padded.not_mem_of_compact closes free
        rw [whole, Text.compact_cons closes, Text.cut?_append stillFree]
        simp only [padded.trim_eq, Text.trim_compact, Text.compact_trim]

theorem parse_compact (line : Text) : parse (compact line) = (parse line).map respaced := by
  unfold parse
  rw [expect_trimStart_compact]
  cases variableRead : expect 'y' (Text.trimStart line) with
  | error reason => rfl
  | ok afterVariable =>
      simp only [Except.map, bind, Except.bind]
      rw [Text.trimStart_append_left (Text.isBlank_spaceBefore _),
        expect_trimStart_compact]
      cases signRead : expect '=' (Text.trimStart afterVariable) with
      | error reason => rfl
      | ok right =>
          have opens : isBlank '{' = false := by decide
          obtain ⟨run, padded, taken, dropped⟩ :=
            exists_cut_compact opens (Text.isBlank_spaceBefore right) right
          simp only [Except.map, taken, dropped, padded.trim_eq, Text.trim_compact,
            clause_compact (Text.dropWhile_ne_start '{' right), List.isEmpty_iff,
            Text.compact_eq_nil_iff_trim]
          split
          · rfl
          · simp only [respaced, Text.compact_trim]

end Equation

end GraphPrograms
