import GraphPrograms.Equation.Normal
import GraphPrograms.Proofs.Text.Ascii
import GraphPrograms.Proofs.Text.Characters

/-!
The normal form of equations, said without the function that makes it.

An equation in the calculator's notation names no variable in lower case, and its constraint is no
chain.  Normalizing leads there in one step and changes nothing that is there.
-/

namespace GraphPrograms

variable {character : Char} {text constraint : Text}

theorem mem_of_mem_deviceLetters (notX : character ≠ 'X') (notY : character ≠ 'Y')
    (member : character ∈ deviceLetters text) : character ∈ text := by
  obtain ⟨letter, inside, renamed⟩ := List.mem_map.mp member
  unfold deviceLetter at renamed
  split at renamed
  · exact absurd renamed.symm notX
  · split at renamed
    · exact absurd renamed.symm notY
    · rw [← renamed]
      exact inside

theorem not_mem_deviceLetters (text : Text) :
    'x' ∉ deviceLetters text ∧ 'y' ∉ deviceLetters text := by
  constructor
  · intro member
    obtain ⟨letter, _, renamed⟩ := List.mem_map.mp member
    exact (deviceLetter_ne letter).1 renamed
  · intro member
    obtain ⟨letter, _, renamed⟩ := List.mem_map.mp member
    exact (deviceLetter_ne letter).2 renamed

theorem deviceLetters_eq_self_iff : deviceLetters text = text ↔ 'x' ∉ text ∧ 'y' ∉ text := by
  constructor
  · intro settled
    rw [← settled]
    exact not_mem_deviceLetters text
  · rintro ⟨noX, noY⟩
    have keeps : ∀ letter ∈ text, deviceLetter letter = letter := by
      intro letter inside
      have notX : letter ≠ 'x' := fun same => noX (same ▸ inside)
      have notY : letter ≠ 'y' := fun same => noY (same ▸ inside)
      rw [deviceLetter, if_neg notX, if_neg notY]
    calc deviceLetters text
        = text.map id := List.map_congr_left keeps
      _ = text := List.map_id text

namespace Chain

variable {chain : Chain}

theorem parse?_eq_some_iff :
    parse? constraint = some chain ↔
      ∃ left middle right, constraint.splitOn '<' = [left, '=' :: middle, '=' :: right] ∧
        Text.trim left = chain.low ∧ Text.trim middle = [chain.letter] ∧
        Text.trim right = chain.high ∧
        isNumeral chain.low ∧ isLetter chain.letter ∧ isNumeral chain.high := by
  constructor
  · intro found
    unfold parse? at found
    split at found
    · rename_i left middle right pieces
      split at found
      · rename_i letter trimmed
        split at found
        · rename_i accepted
          simp only [Bool.and_eq_true] at accepted
          cases found
          exact ⟨left, middle, right, pieces, rfl, trimmed, rfl, accepted.1.1, accepted.1.2,
            accepted.2⟩
        · contradiction
      · contradiction
    · contradiction
  · rintro ⟨left, middle, right, pieces, low, letter, high, lowNumeral, named, highNumeral⟩
    simp [parse?, pieces, low, letter, high, lowNumeral, named, highNumeral]

theorem parts_subset (found : parse? constraint = some chain) :
    chain.low ⊆ constraint ∧ chain.letter ∈ constraint ∧ chain.high ⊆ constraint := by
  obtain ⟨left, middle, right, pieces, low, letter, high, _⟩ := parse?_eq_some_iff.mp found
  have piece : ∀ part ∈ constraint.splitOn '<', part ⊆ constraint :=
    fun part => Text.subset_of_mem_splitOn
  have leftInside : left ⊆ constraint := piece left (by simp [pieces])
  have middleInside : '=' :: middle ⊆ constraint := piece ('=' :: middle) (by simp [pieces])
  have rightInside : '=' :: right ⊆ constraint := piece ('=' :: right) (by simp [pieces])
  have letterInside : chain.letter ∈ Text.trim middle := by simp [letter]
  rw [← low, ← high]
  exact ⟨fun _ member => leftInside (Text.trim_subset left member),
    middleInside (List.mem_cons_of_mem _ (Text.trim_subset middle letterInside)),
    fun _ member => rightInside (List.mem_cons_of_mem _ (Text.trim_subset right member))⟩

theorem sign_not_mem_bounds (found : parse? constraint = some chain) :
    '<' ∉ chain.low ∧ '<' ∉ chain.high := by
  obtain ⟨left, middle, right, pieces, low, _, high, _⟩ := parse?_eq_some_iff.mp found
  have free : ∀ part ∈ constraint.splitOn '<', '<' ∉ part :=
    fun part => Text.not_mem_of_mem_splitOn
  have leftFree : '<' ∉ left := free left (by simp [pieces])
  have rightFree : '<' ∉ '=' :: right := free ('=' :: right) (by simp [pieces])
  rw [← low, ← high]
  exact ⟨fun inside => leftFree (Text.trim_subset left inside),
    fun inside => rightFree (List.mem_cons_of_mem _ (Text.trim_subset right inside))⟩

theorem letter_eq_of_parse? (found : parse? constraint = some chain) :
    chain.letter = 'X' ∨ chain.letter = 'Y' := by
  obtain ⟨_, _, _, _, _, _, _, _, named, _⟩ := parse?_eq_some_iff.mp found
  simpa [isLetter] using named

/-- A conjunction has two signs, as a chain has, but more than a letter between them. -/
theorem parse?_conjunction (found : parse? constraint = some chain) :
    parse? chain.conjunction = none := by
  obtain ⟨lowFree, highFree⟩ := sign_not_mem_bounds found
  have named := letter_eq_of_parse? found
  obtain ⟨low, letter, high⟩ := chain
  simp only at lowFree highFree named
  have middleFree : '<' ∉ '=' :: letter :: " and ".toList ++ [letter] := by
    rcases named with rfl | rfl <;> decide
  have rightFree : '<' ∉ '=' :: high := by simpa using highFree
  have written : (Chain.mk low letter high).conjunction =
      ['<'].intercalate [low, '=' :: letter :: " and ".toList ++ [letter], '=' :: high] := by
    simp [conjunction, List.intercalate]
  have pieces : (Chain.mk low letter high).conjunction.splitOn '<' =
      [low, '=' :: letter :: " and ".toList ++ [letter], '=' :: high] := by
    rw [written]
    refine List.splitOn_intercalate '<' ?_ (by simp)
    simp only [List.forall_mem_cons]
    exact ⟨lowFree, middleFree, rightFree, by simp⟩
  cases again : parse? (Chain.mk low letter high).conjunction with
  | none => rfl
  | some other =>
      obtain ⟨left, middle, right, others, _, single, _⟩ := parse?_eq_some_iff.mp again
      rw [pieces] at others
      simp only [List.cons.injEq] at others
      obtain ⟨_, ⟨_, rfl⟩, _⟩ := others
      have wide : (Text.trim (letter :: " and ".toList ++ [letter])).length = 7 := by
        rcases named with rfl | rfl <;> decide
      have narrow := congrArg List.length single
      exact absurd (wide.symm.trans narrow) (by simp)

theorem not_mem_conjoined {mark : Char} (notSign : mark ∉ "<=".toList)
    (notWord : mark ∉ " and ".toList) (free : mark ∉ constraint) :
    mark ∉ conjoined constraint := by
  unfold conjoined
  split
  · rename_i chain found
    obtain ⟨low, letter, high⟩ := parts_subset found
    have notLetter : mark ≠ chain.letter := fun same => free (same ▸ letter)
    have notLow : mark ∉ chain.low := fun inside => free (low inside)
    have notHigh : mark ∉ chain.high := fun inside => free (high inside)
    simp only [conjunction, List.mem_append, List.mem_singleton, not_or]
    exact ⟨⟨⟨⟨⟨⟨notLow, notSign⟩, notLetter⟩, notWord⟩, notLetter⟩, notSign⟩, notHigh⟩
  · exact free

theorem parse?_conjoined (constraint : Text) : parse? (conjoined constraint) = none := by
  unfold conjoined
  split
  · rename_i chain found
    exact parse?_conjunction found
  · assumption

theorem conjoined_eq_self_iff : conjoined constraint = constraint ↔ parse? constraint = none := by
  constructor
  · intro settled
    rw [← settled]
    exact parse?_conjoined constraint
  · intro noChain
    simp [conjoined, noChain]

end Chain

namespace Equation

variable {equation : Equation}

/-- An equation in the calculator's notation. -/
structure IsNormal (equation : Equation) : Prop where
  expression : 'x' ∉ equation.expression ∧ 'y' ∉ equation.expression
  constraint : 'x' ∉ equation.constraint ∧ 'y' ∉ equation.constraint
  noChain : Chain.parse? equation.constraint = none

theorem isNormal_normalize (equation : Equation) : equation.normalize.IsNormal where
  expression := not_mem_deviceLetters equation.expression
  constraint :=
    let free := not_mem_deviceLetters equation.constraint
    ⟨Chain.not_mem_conjoined (by decide) (by decide) free.1,
      Chain.not_mem_conjoined (by decide) (by decide) free.2⟩
  noChain := Chain.parse?_conjoined (deviceLetters equation.constraint)

theorem normalize_of_isNormal (normal : equation.IsNormal) : equation.normalize = equation := by
  have expression := deviceLetters_eq_self_iff.mpr normal.expression
  have constraint := deviceLetters_eq_self_iff.mpr normal.constraint
  have conjoined := Chain.conjoined_eq_self_iff.mpr normal.noChain
  rw [normalize, expression, constraint, conjoined]

/-- Normalizing brings nothing but printable ASCII. -/
theorem mem_of_mem_normalize {character : Char} (strange : ¬ Text.isTyped character = true) :
    (character ∈ equation.normalize.expression → character ∈ equation.expression) ∧
      (character ∈ equation.normalize.constraint → character ∈ equation.constraint) := by
  have notX : character ≠ 'X' := fun same => strange (by rw [same]; decide)
  have notY : character ≠ 'Y' := fun same => strange (by rw [same]; decide)
  have signs : Text.Typed "<=".toList := by decide
  have word : Text.Typed " and ".toList := by decide
  refine ⟨mem_of_mem_deviceLetters notX notY, fun inside => ?_⟩
  by_contra free
  exact Chain.not_mem_conjoined (fun sign => strange (signs character sign))
    (fun letter => strange (word character letter))
    (fun renamed => free (mem_of_mem_deviceLetters notX notY renamed)) inside

/-- Normalizing twice is normalizing once, and no variable is left in lower case. -/
theorem normalize_settles (equation : Equation) :
    equation.normalize.normalize = equation.normalize ∧
      ('x' ∉ equation.normalize.expression ∧ 'y' ∉ equation.normalize.expression) ∧
      'x' ∉ equation.normalize.constraint ∧ 'y' ∉ equation.normalize.constraint := by
  have normal := isNormal_normalize equation
  exact ⟨normalize_of_isNormal normal, normal.expression, normal.constraint⟩

end Equation

end GraphPrograms
