import GraphPrograms.Equation.Basic
import Mathlib.Data.List.TakeWhile

/-!
The grammar of equations, apart from the scanner that reads them.

`Spells` lists the shapes of a line in the order in which they are written and says nothing of how
a line is scanned.  The scanner cuts at the first mark it is looking for, and the grammar asks the
parts between the marks to be free of them, which is why a line can be cut in one way only.
-/

namespace GraphPrograms

/-- A text between a first opening brace and the next closing one; what follows does not matter. -/
def Encloses (tail body : Text) : Prop :=
  body ≠ [] ∧ '}' ∉ body ∧ ∃ ignored, tail = '{' :: (body ++ '}' :: ignored)

/-- The constraint of the tail of a line.  A tail that encloses nothing has the empty one. -/
inductive Constrains : Text → Text → Prop where
  | body {tail body : Text} (encloses : Encloses tail body) : Constrains tail (Text.trim body)
  | free {tail : Text} (nothing : ∀ body, ¬ Encloses tail body) : Constrains tail []

/-- A line that spells an equation. -/
inductive Spells : Text → Equation → Prop where
  | line {before between run tail constraint : Text}
      (beforeBlank : ∀ character ∈ before, Text.isBlank character)
      (betweenBlank : ∀ character ∈ between, Text.isBlank character)
      (runFree : '{' ∉ run) (tailStart : tail = [] ∨ tail.head? = some '{')
      (visible : Text.trim run ≠ []) (constrains : Constrains tail constraint) :
      Spells (before ++ 'y' :: (between ++ '=' :: (run ++ tail))) ⟨Text.trim run, constraint⟩

namespace Text

variable {mark : Char} {text left right : Text}

theorem takeWhile_ne_append (free : mark ∉ left) (stop : right = [] ∨ right.head? = some mark) :
    (left ++ right).takeWhile (· != mark) = left ∧
      (left ++ right).dropWhile (· != mark) = right := by
  have passes : ∀ character ∈ left, (character != mark) = true := by
    intro character member
    rw [bne_iff_ne]
    rintro rfl
    exact free member
  rw [List.takeWhile_append_of_pos passes, List.dropWhile_append_of_pos passes]
  rcases stop with rfl | starts
  · simp
  · obtain ⟨rest, rfl⟩ := List.head?_eq_some_iff.mp starts
    simp

theorem not_mem_takeWhile_ne (mark : Char) (text : Text) :
    mark ∉ text.takeWhile (· != mark) := by
  intro member
  simpa using List.mem_takeWhile_imp member

theorem dropWhile_ne_start (mark : Char) (text : Text) :
    text.dropWhile (· != mark) = [] ∨ (text.dropWhile (· != mark)).head? = some mark := by
  cases rest : text.dropWhile (· != mark) with
  | nil => exact .inl rfl
  | cons first rest =>
      have stopped := List.head?_dropWhile_not (· != mark) text
      simp_all

/-- A cut is the one place where nothing before it is the mark. -/
theorem cut?_eq_some_iff {rest : Text} :
    cut? mark text = some (left, rest) ↔ mark ∉ left ∧ text = left ++ mark :: rest := by
  constructor
  · intro found
    unfold cut? at found
    split at found
    · contradiction
    · rename_i stop rest dropped
      simp only [Option.some.injEq, Prod.mk.injEq] at found
      obtain ⟨rfl, rfl⟩ := found
      have starts := dropWhile_ne_start mark text
      rw [dropped] at starts
      simp only [reduceCtorEq, List.head?_cons, Option.some.injEq, false_or] at starts
      subst starts
      refine ⟨not_mem_takeWhile_ne stop text, ?_⟩
      rw [← dropped, List.takeWhile_append_dropWhile]
  · rintro ⟨free, rfl⟩
    exact cut?_append free rest

end Text

namespace Equation

variable {line rest tail : Text}

theorem expect_trimStart_eq_ok_iff {mark : Char} (visible : Text.isBlank mark = false) :
    expect mark (Text.trimStart line) = .ok rest ↔
      ∃ blanks, (∀ character ∈ blanks, Text.isBlank character) ∧ line = blanks ++ mark :: rest := by
  constructor
  · intro read
    refine ⟨line.takeWhile Text.isBlank, fun character => List.mem_takeWhile_imp, ?_⟩
    cases trimmed : Text.trimStart line with
    | nil => simp [trimmed, expect] at read
    | cons first after =>
        rw [trimmed, expect] at read
        split at read
        · rename_i same
          cases read
          rw [← same, ← trimmed, Text.trimStart, List.takeWhile_append_dropWhile]
        · contradiction
  · rintro ⟨blanks, blank, rfl⟩
    rw [Text.trimStart, List.dropWhile_append_of_pos blank]
    simp [visible, expect]

theorem clause_of_encloses {body : Text} (encloses : Encloses tail body) :
    clause tail = Text.trim body := by
  obtain ⟨_, free, ignored, rfl⟩ := encloses
  rw [clause, Text.cut?_append free]

/-- The clause of an empty pair of braces is empty for another reason than that of a tail without
a closing brace, and both count as enclosing nothing. -/
theorem clause_of_not_encloses (nothing : ∀ body, ¬ Encloses tail body) : clause tail = [] := by
  unfold clause
  split
  · rename_i body
    cases found : Text.cut? '}' body with
    | none => rfl
    | some parts =>
        obtain ⟨inner, ignored⟩ := parts
        obtain ⟨free, rfl⟩ := Text.cut?_eq_some_iff.mp found
        have empty : inner = [] := by
          by_contra nonempty
          exact nothing inner ⟨nonempty, free, ignored, rfl⟩
        rw [empty]
        rfl
  · rfl

theorem constrains_iff {constraint : Text} :
    Constrains tail constraint ↔ clause tail = constraint := by
  constructor
  · intro constrains
    cases constrains with
    | body encloses => exact clause_of_encloses encloses
    | free nothing => exact clause_of_not_encloses nothing
  · rintro rfl
    by_cases something : ∃ body, Encloses tail body
    · obtain ⟨body, encloses⟩ := something
      rw [clause_of_encloses encloses]
      exact .body encloses
    · have nothing := not_exists.mp something
      rw [clause_of_not_encloses nothing]
      exact .free nothing

/-- What stands on the right of the equals sign, cut at its first brace. -/
theorem parse_right {right : Text} {equation : Equation} :
    (if (Text.trim (right.takeWhile (· != '{'))).isEmpty then
        (.error .noMatch : Except RejectReason Equation)
      else .ok ⟨Text.trim (right.takeWhile (· != '{')), clause (right.dropWhile (· != '{'))⟩) =
        .ok equation ↔
      ∃ run tail constraint, right = run ++ tail ∧ '{' ∉ run ∧
        (tail = [] ∨ tail.head? = some '{') ∧ Text.trim run ≠ [] ∧
        Constrains tail constraint ∧ equation = ⟨Text.trim run, constraint⟩ := by
  constructor
  · intro read
    split at read
    · contradiction
    · rename_i visible
      cases read
      exact ⟨_, _, _, List.takeWhile_append_dropWhile.symm, Text.not_mem_takeWhile_ne '{' right,
        Text.dropWhile_ne_start '{' right, by simpa using visible, constrains_iff.mpr rfl, rfl⟩
  · rintro ⟨run, tail, constraint, rfl, free, start, visible, constrains, rfl⟩
    obtain ⟨taken, dropped⟩ := Text.takeWhile_ne_append free start
    rw [taken, dropped, if_neg (by simpa using visible), constrains_iff.mp constrains]

theorem parse_eq_ok_iff {equation : Equation} :
    parse line = .ok equation ↔ Spells line equation := by
  constructor
  · intro read
    cases variableRead : expect 'y' (Text.trimStart line) with
    | error reason => simp [parse, variableRead, bind, Except.bind] at read
    | ok afterVariable =>
        cases signRead : expect '=' (Text.trimStart afterVariable) with
        | error reason => simp [parse, variableRead, signRead, bind, Except.bind] at read
        | ok right =>
            simp only [parse, variableRead, signRead, bind, Except.bind] at read
            obtain ⟨before, beforeBlank, rfl⟩ :=
              (expect_trimStart_eq_ok_iff (by decide)).mp variableRead
            obtain ⟨between, betweenBlank, rfl⟩ :=
              (expect_trimStart_eq_ok_iff (by decide)).mp signRead
            obtain ⟨run, tail, constraint, rfl, free, start, visible, constrains, rfl⟩ :=
              parse_right.mp read
            exact .line beforeBlank betweenBlank free start visible constrains
  · rintro (@⟨before, between, run, tail, constraint, beforeBlank, betweenBlank, free, start,
      visible, constrains⟩)
    have variableRead :
        expect 'y' (Text.trimStart (before ++ 'y' :: (between ++ '=' :: (run ++ tail)))) =
          .ok (between ++ '=' :: (run ++ tail)) :=
      (expect_trimStart_eq_ok_iff (by decide)).mpr ⟨before, beforeBlank, rfl⟩
    have signRead : expect '=' (Text.trimStart (between ++ '=' :: (run ++ tail))) =
        .ok (run ++ tail) :=
      (expect_trimStart_eq_ok_iff (by decide)).mpr ⟨between, betweenBlank, rfl⟩
    simp only [parse, variableRead, signRead, bind, Except.bind]
    exact parse_right.mpr ⟨run, tail, constraint, rfl, free, start, visible, constrains, rfl⟩

/-- The scanner and the grammar agree on every line, and lines outside the grammar are refused for
the one reason there is. -/
theorem parse_agrees_with_grammar (line : Text) :
    (∀ equation, parse line = .ok equation ↔ Spells line equation) ∧
      (parse line = .error .noMatch ↔ ∀ equation, ¬ Spells line equation) := by
  refine ⟨fun equation => parse_eq_ok_iff, ?_⟩
  constructor
  · intro refused equation spells
    rw [parse_eq_ok_iff.mpr spells] at refused
    contradiction
  · intro outside
    cases read : parse line with
    | error reason => rfl
    | ok equation => exact absurd (parse_eq_ok_iff.mp read) (outside equation)

end Equation

end GraphPrograms
