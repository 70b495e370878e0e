import GraphPrograms.Environment
import Mathlib.Data.List.Infix

/-!
What the references in a text stand for, apart from the scanner that replaces them.

`Reads` divides a text at its references, the first one first, and says nothing of how the text is
scanned.  Since the part before a reference is free of openings and its name is free of closing
braces, a text is divided in one way only, and what is put in for a reference is no part of what is
divided.  A text whose references are all closed is done with when the next one begins, so texts
are expanded one after the other unless an opening comes about between them (`expand_append`).
-/

namespace GraphPrograms

namespace Environment

variable {environment : Environment} {text before name after rest left right : Text} {first : Char}

/-- A text in which no reference begins. -/
def Bare (text : Text) : Prop := ¬ ['$', '{'] <:+: text

instance (text : Text) : Decidable (Bare text) := inferInstanceAs (Decidable (¬ _ <:+: _))

/-- What a name stands for. -/
inductive Stands (environment : Environment) : Text → Text → Prop where
  | set {name value : Text} (visible : name ≠ []) (found : environment.get? name = some value) :
      Stands environment name value
  | unset {name : Text} (missing : environment.get? name = none) : Stands environment name []
  | unnamed : Stands environment [] []

/-- A text and what it says when its references are replaced.  A reference goes from the first
opening to the first closing brace behind it; an opening without one is left with all that follows
it. -/
inductive Reads (environment : Environment) : Text → Text → Prop where
  | bare {text : Text} (bare : Bare text) : Reads environment text text
  | unclosed {before rest : Text} (bare : Bare before) (unclosed : '}' ∉ rest) :
      Reads environment (before ++ '$' :: '{' :: rest) (before ++ '$' :: '{' :: rest)
  | reference {before name value after result : Text} (bare : Bare before) (closes : '}' ∉ name)
      (stands : Stands environment name value) (behind : Reads environment after result) :
      Reads environment (before ++ '$' :: '{' :: (name ++ '}' :: after)) (before ++ value ++ result)

/-- A text whose references are all closed. -/
inductive Finished : Text → Prop where
  | bare {text : Text} (bare : Bare text) : Finished text
  | reference {before name after : Text} (bare : Bare before) (closes : '}' ∉ name)
      (behind : Finished after) : Finished (before ++ '$' :: '{' :: (name ++ '}' :: after))

/-- No reference begins where one text goes over into the next. -/
def Parted (left right : Text) : Prop := ¬ (left.getLast? = some '$' ∧ right.head? = some '{')

instance (left right : Text) : Decidable (Parted left right) := inferInstanceAs (Decidable (¬ _))

theorem stands_iff {value : Text} :
    Stands environment name value ↔ environment.value name = value := by
  unfold Environment.value
  constructor
  · intro stands
    cases stands with
    | set visible found => simp [visible, found]
    | unset missing => simp [missing]
    | unnamed => rfl
  · rintro rfl
    by_cases visible : name = []
    · subst visible
      exact .unnamed
    · cases found : environment.get? name with
      | none => simpa [visible] using Stands.unset found
      | some value => simpa [visible] using Stands.set visible found

theorem bare_cons_iff :
    Bare (first :: rest) ↔ ¬ (first = '$' ∧ rest.head? = some '{') ∧ Bare rest := by
  have opening : ['$', '{'] <+: first :: rest ↔ first = '$' ∧ rest.head? = some '{' := by
    cases rest <;> simp [List.cons_prefix_cons, eq_comm]
  rw [Bare, List.infix_cons_iff, opening, not_or, ← Bare]

theorem bare_or_exists_opening (text : Text) :
    Bare text ∨ ∃ before rest, Bare before ∧ text = before ++ '$' :: '{' :: rest := by
  induction text with
  | nil => exact .inl (by simp [Bare])
  | cons first text ih =>
      by_cases opens : first = '$' ∧ text.head? = some '{'
      · obtain ⟨rfl, starts⟩ := opens
        obtain ⟨rest, rfl⟩ := List.head?_eq_some_iff.mp starts
        exact .inr ⟨[], rest, by simp [Bare], rfl⟩
      · rcases ih with bare | ⟨before, rest, bare, rfl⟩
        · exact .inl (bare_cons_iff.mpr ⟨opens, bare⟩)
        · refine .inr ⟨first :: before, rest, bare_cons_iff.mpr ⟨?_, bare⟩, rfl⟩
          cases before with
          | nil => simp
          | cons second before => exact opens

@[simp] theorem expand_nil (environment : Environment) : environment.expand [] = [] := by
  rw [expand]

theorem expand_cons (plain : ¬ (first = '$' ∧ rest.head? = some '{')) :
    environment.expand (first :: rest) = first :: environment.expand rest := by
  rw [expand, if_neg plain]

theorem expand_unclosed (unclosed : '}' ∉ rest) :
    environment.expand ('$' :: '{' :: rest) = '$' :: '{' :: rest := by
  rw [expand, if_pos ⟨rfl, rfl⟩, List.tail_cons, if_neg unclosed]

theorem expand_reference (closes : '}' ∉ name) (after : Text) :
    environment.expand ('$' :: '{' :: (name ++ '}' :: after)) =
      environment.value name ++ environment.expand after := by
  have passes : ∀ character ∈ name, (character != '}') = true := by
    intro character member
    rw [bne_iff_ne]
    rintro rfl
    exact closes member
  rw [expand, if_pos ⟨rfl, rfl⟩, if_pos (by simp), List.tail_cons,
    List.takeWhile_append_of_pos passes, List.dropWhile_append_of_pos passes]
  simp

theorem expand_bare_append (bare : Bare left) (parted : Parted left right) :
    environment.expand (left ++ right) = left ++ environment.expand right := by
  induction left with
  | nil => rfl
  | cons first rest ih =>
      obtain ⟨plain, bareRest⟩ := bare_cons_iff.mp bare
      cases rest with
      | nil => exact expand_cons (by simpa [Parted] using parted)
      | cons second rest =>
          rw [List.cons_append, expand_cons (by simpa using plain),
            ih bareRest (by simpa [Parted] using parted)]
          rfl

theorem expand_bare (bare : Bare text) : environment.expand text = text := by
  have whole : environment.expand (text ++ []) = text ++ environment.expand [] :=
    expand_bare_append bare (by simp [Parted])
  simpa using whole

/-- The part before an opening stays as it is. -/
theorem expand_before (bare : Bare before) (rest : Text) :
    environment.expand (before ++ '$' :: rest) = before ++ environment.expand ('$' :: rest) :=
  expand_bare_append bare (by simp [Parted])

theorem Reads.expand_eq {result : Text} (reads : Reads environment text result) :
    environment.expand text = result := by
  induction reads with
  | bare bare => exact expand_bare bare
  | unclosed bare unclosed => rw [expand_before bare, expand_unclosed unclosed]
  | reference bare closes stands behind ih =>
      rw [expand_before bare, expand_reference closes, ih, stands_iff.mp stands, List.append_assoc]

theorem reads_expand (environment : Environment) (text : Text) :
    Reads environment text (environment.expand text) := by
  -- A reference leaves what is behind it to be read, which is shorter.
  induction length : text.length using Nat.strongRecOn generalizing text with
  | ind length ih =>
      subst length
      rcases bare_or_exists_opening text with bare | ⟨before, rest, bare, rfl⟩
      · rw [expand_bare bare]
        exact .bare bare
      · by_cases closed : '}' ∈ rest
        · obtain ⟨name, after, rfl, closes⟩ := List.eq_append_cons_of_mem closed
          rw [expand_before bare, expand_reference closes, ← List.append_assoc]
          exact .reference bare closes (stands_iff.mpr rfl) (ih _ (by simp; omega) after rfl)
        · rw [expand_before bare, expand_unclosed closed]
          exact .unclosed bare closed

theorem Parted.of_append (parted : Parted (left ++ rest) right) : Parted rest right := by
  cases rest with
  | nil => simp [Parted]
  | cons first rest =>
      rwa [Parted, List.getLast?_append_of_ne_nil left (List.cons_ne_nil first rest)] at parted

theorem expand_append (finished : Finished left) (parted : Parted left right) :
    environment.expand (left ++ right) = environment.expand left ++ environment.expand right := by
  induction finished with
  | bare bare => rw [expand_bare_append bare parted, expand_bare bare]
  | @reference before name after bare closes behind ih =>
      have whole : Parted ((before ++ '$' :: '{' :: (name ++ ['}'])) ++ after) right := by
        simpa using parted
      have later := whole.of_append
      rw [List.append_assoc, List.cons_append, List.cons_append, List.append_assoc,
        List.cons_append, expand_before bare, expand_before bare, expand_reference closes,
        expand_reference closes, ih later]
      simp only [List.append_assoc]

/-- Expanding a text gives what it reads and nothing else.  A text without references stays as it
is, and texts may be expanded one by one where the first has no reference unclosed and none begins
between them. -/
theorem expand_agrees_with_reading (environment : Environment) :
    (∀ text result, environment.expand text = result ↔ Reads environment text result) ∧
      (∀ text, Bare text → environment.expand text = text) ∧
      (∀ left right, Finished left → Parted left right →
        environment.expand (left ++ right) =
          environment.expand left ++ environment.expand right) := by
  refine ⟨fun text result => ⟨?_, Reads.expand_eq⟩, fun _ => expand_bare,
    fun _ _ => expand_append⟩
  rintro rfl
  exact reads_expand environment text

/-- A value that looks like a reference is not read again, and a sign at the end of a text is none
yet. -/
theorem expand_agrees_with_reading_home :
    let environment : Environment :=
      { bindings := [("HOME".toList, "/$\x7bHOME\x7d".toList)] }
    environment.expand "a$b".toList = "a$b".toList ∧
      environment.expand ("$\x7bHOME\x7d/$".toList ++ "x/$\x7bHOME".toList) =
        "/$\x7bHOME\x7d/$x/$\x7bHOME".toList := by
  intro environment
  obtain ⟨reads, plain, joined⟩ := expand_agrees_with_reading environment
  have finished : Finished "$\x7bHOME\x7d/$".toList :=
    @Finished.reference [] "HOME".toList "/$".toList (by decide) (by decide) (.bare (by decide))
  refine ⟨plain _ (by decide), (joined _ _ finished (by decide)).trans ?_⟩
  have home : environment.expand "$\x7bHOME\x7d/$".toList = "/$\x7bHOME\x7d/$".toList :=
    (reads _ _).mpr (@Reads.reference environment [] "HOME".toList "/$\x7bHOME\x7d".toList
      "/$".toList _ (by decide) (by decide) (.set (by decide) rfl) (.bare (by decide)))
  have later : environment.expand "x/$\x7bHOME".toList = "x/$\x7bHOME".toList :=
    (reads _ _).mpr (@Reads.unclosed environment "x/".toList "HOME".toList (by decide) (by decide))
  rw [home, later]
  rfl

end Environment

end GraphPrograms
