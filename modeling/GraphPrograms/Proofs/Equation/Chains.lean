import GraphPrograms.Proofs.Equation.Normalization
import GraphPrograms.Proofs.Text.Compact

/-!
Numerals and chains, said as grammars.

`Numeral` is what the recogniser of numerals accepts, written down part by part.  A chain is found
between blanks of any width (`parse?_compact`), since no part of it contains a blank.
-/

namespace GraphPrograms

namespace Text

variable {character : Char} {text : Text}

theorem isBlank_eq_false_of_isDigit (digit : character.isDigit = true) :
    isBlank character = false := by
  simp only [Char.isDigit, Bool.and_eq_true, decide_eq_true_eq, UInt32.le_iff_toNat_le] at digit
  have low : 48 ≤ character.toNat := digit.1
  have high : character.toNat ≤ 57 := digit.2
  simp only [isBlank, inRanges, blankRanges, List.any_cons, List.any_nil, Bool.or_eq_false_iff,
    Bool.and_eq_false_iff, decide_eq_false_iff_not, and_true]
  omega

/-- A word among blanks stays when they are made single spaces. -/
theorem Padded.trim_eq_word {part word : Text} (padded : Padded (compact text) part)
    (word_eq : trim text = word) (visible : ∀ character ∈ word, isBlank character = false) :
    trim part = word := by
  rw [padded.trim_eq, trim_compact, ← compact_trim, word_eq, compact_eq_self visible]

end Text

namespace Chain

variable {character : Char} {text sign digits constraint : Text} {chain : Chain}

/-- ASCII digits with at most one point among them, and at least one digit. -/
inductive Unsigned : Text → Prop where
  | whole {digits : Text} (visible : digits ≠ []) (ascii : ∀ digit ∈ digits, digit.isDigit) :
      Unsigned digits
  | pointed {whole fraction : Text} (visible : whole ≠ [] ∨ fraction ≠ [])
      (ascii : ∀ digit ∈ whole ++ fraction, digit.isDigit) : Unsigned (whole ++ '.' :: fraction)

/-- A decimal numeral with an optional sign. -/
inductive Numeral : Text → Prop where
  | signed {sign digits : Text} (optional : sign ∈ [[], ['+'], ['-']])
      (unsigned : Unsigned digits) : Numeral (sign ++ digits)

theorem Unsigned.mem (unsigned : Unsigned digits) (inside : character ∈ digits) :
    character.isDigit = true ∨ character = '.' := by
  cases unsigned with
  | whole _ ascii => exact .inl (ascii character inside)
  | pointed _ ascii =>
      rw [List.mem_append, List.mem_cons] at inside
      rcases inside with before | rfl | after
      · exact .inl (ascii character (List.mem_append_left _ before))
      · exact .inr rfl
      · exact .inl (ascii character (List.mem_append_right _ after))

theorem Unsigned.isUnsigned (unsigned : Unsigned digits) : isUnsigned digits = true := by
  cases unsigned with
  | whole visible ascii =>
      have taken := List.takeWhile_eq_self_iff.mpr ascii
      have dropped := List.dropWhile_eq_nil_iff.mpr ascii
      simp [Chain.isUnsigned, taken, dropped, visible]
  | @pointed whole fraction visible ascii =>
      obtain ⟨wholeAscii, fractionAscii⟩ := List.forall_mem_append.mp ascii
      have taken : (whole ++ '.' :: fraction).takeWhile Char.isDigit = whole := by
        rw [List.takeWhile_append_of_pos wholeAscii]
        simp
      have dropped : (whole ++ '.' :: fraction).dropWhile Char.isDigit = '.' :: fraction := by
        rw [List.dropWhile_append_of_pos wholeAscii]
        simp
      have allDigits : fraction.all Char.isDigit = true := List.all_eq_true.mpr fractionAscii
      simp only [Chain.isUnsigned, taken, dropped, allDigits, Bool.true_and, Bool.not_eq_true',
        Bool.and_eq_false_iff, List.isEmpty_eq_false_iff]
      exact visible

theorem Unsigned.dropSign_eq (unsigned : Unsigned digits) : dropSign digits = digits := by
  unfold dropSign
  split
  · rcases unsigned.mem List.mem_cons_self with digit | point
    · exact absurd digit (by decide)
    · contradiction
  · rcases unsigned.mem List.mem_cons_self with digit | point
    · exact absurd digit (by decide)
    · contradiction
  · rfl

namespace Numeral

variable (numeral : Numeral text)

include numeral

theorem isNumeral : isNumeral text = true := by
  obtain ⟨optional, unsigned⟩ := numeral
  have read := unsigned.isUnsigned
  simp only [List.mem_cons, List.not_mem_nil, or_false] at optional
  rcases optional with rfl | rfl | rfl
  · rwa [Chain.isNumeral, List.nil_append, unsigned.dropSign_eq]
  · exact read
  · exact read

theorem mem (inside : character ∈ text) : character.isDigit = true ∨ character ∈ "+-.".toList := by
  obtain ⟨optional, unsigned⟩ := numeral
  rcases List.mem_append.mp inside with signed | digit
  · simp only [List.mem_cons, List.not_mem_nil, or_false] at optional
    rcases optional with rfl | rfl | rfl
    · contradiction
    · rw [List.mem_singleton.mp signed]
      exact .inr (by decide)
    · rw [List.mem_singleton.mp signed]
      exact .inr (by decide)
  · refine (unsigned.mem digit).imp_right ?_
    rintro rfl
    decide

theorem not_mem (notDigit : character.isDigit = false) (notMark : character ∉ "+-.".toList) :
    character ∉ text := by
  intro inside
  rcases numeral.mem inside with digit | mark
  · rw [digit] at notDigit
    contradiction
  · exact notMark mark

theorem visible : ∀ character ∈ text, Text.isBlank character = false := by
  intro character inside
  rcases numeral.mem inside with digit | mark
  · exact Text.isBlank_eq_false_of_isDigit digit
  · have marks : ∀ mark ∈ "+-.".toList, Text.isBlank mark = false :=
      List.forall_iff_forall_mem.mp (by decide)
    exact marks character mark

end Numeral

theorem unsigned_of_isUnsigned (accepted : isUnsigned text = true) : Unsigned text := by
  have whole : text.takeWhile Char.isDigit ++ text.dropWhile Char.isDigit = text :=
    List.takeWhile_append_dropWhile
  have ascii : ∀ digit ∈ text.takeWhile Char.isDigit, digit.isDigit :=
    fun digit => List.mem_takeWhile_imp
  unfold isUnsigned at accepted
  split at accepted
  · rename_i taken dropped
    rw [dropped, List.append_nil] at whole
    rw [← whole]
    exact .whole (by simpa using accepted) ascii
  · rename_i fraction dropped
    simp only [Bool.and_eq_true, List.all_eq_true, Bool.not_eq_true', Bool.and_eq_false_iff,
      List.isEmpty_eq_false_iff] at accepted
    rw [← whole, dropped]
    exact .pointed accepted.2 (List.forall_mem_append.mpr ⟨ascii, accepted.1⟩)
  · contradiction

theorem isNumeral_iff : isNumeral text = true ↔ Numeral text := by
  constructor
  · intro accepted
    unfold isNumeral dropSign at accepted
    split at accepted
    · exact @Numeral.signed ['+'] _ (by decide) (unsigned_of_isUnsigned accepted)
    · exact @Numeral.signed ['-'] _ (by decide) (unsigned_of_isUnsigned accepted)
    · exact @Numeral.signed [] _ (by decide) (unsigned_of_isUnsigned accepted)
  · exact Numeral.isNumeral

/-- A chain has two signs, and between blanks a numeral, a letter and a numeral around them. -/
theorem parse?_eq_some_iff_parts :
    parse? constraint = some chain ↔
      ∃ left middle right,
        constraint = left ++ '<' :: '=' :: (middle ++ '<' :: '=' :: right) ∧
        '<' ∉ left ∧ '<' ∉ middle ∧ '<' ∉ right ∧
        Text.trim left = chain.low ∧ Text.trim middle = [chain.letter] ∧
        Text.trim right = chain.high ∧
        isNumeral chain.low ∧ isLetter chain.letter ∧ isNumeral chain.high := by
  rw [parse?_eq_some_iff]
  constructor
  · rintro ⟨left, middle, right, pieces, accepted⟩
    have whole : ['<'].intercalate (constraint.splitOn '<') = constraint :=
      List.intercalate_splitOn '<'
    have free : ∀ piece ∈ constraint.splitOn '<', '<' ∉ piece :=
      fun piece => Text.not_mem_of_mem_splitOn
    have leftFree : '<' ∉ left := free left (by simp [pieces])
    have middleFree : '<' ∉ '=' :: middle := free ('=' :: middle) (by simp [pieces])
    have rightFree : '<' ∉ '=' :: right := free ('=' :: right) (by simp [pieces])
    rw [pieces] at whole
    refine ⟨left, middle, right, ?_, leftFree, List.not_mem_of_not_mem_cons middleFree,
      List.not_mem_of_not_mem_cons rightFree, accepted⟩
    rw [← whole]
    simp [List.intercalate_cons_cons]
  · rintro ⟨left, middle, right, rfl, leftFree, middleFree, rightFree, accepted⟩
    refine ⟨left, middle, right, ?_, accepted⟩
    have written : left ++ '<' :: '=' :: (middle ++ '<' :: '=' :: right) =
        ['<'].intercalate [left, '=' :: middle, '=' :: right] := by
      simp [List.intercalate_cons_cons]
    rw [written]
    have sign : '<' ≠ '=' := by decide
    have free : ∀ piece ∈ [left, '=' :: middle, '=' :: right], '<' ∉ piece := by
      simp only [List.forall_mem_cons]
      exact ⟨leftFree, List.not_mem_cons_of_ne_of_not_mem sign middleFree,
        List.not_mem_cons_of_ne_of_not_mem sign rightFree, List.forall_mem_nil _⟩
    exact List.splitOn_intercalate '<' free (by simp)

/-- The parts of a chain have no blanks in them, so it does not matter how wide those around them
are. -/
theorem parse?_compact (found : parse? constraint = some chain) :
    parse? (Text.compact constraint) = some chain := by
  obtain ⟨left, middle, right, rfl, leftFree, middleFree, rightFree, low, letter, high,
    lowNumeral, named, highNumeral⟩ := parse?_eq_some_iff_parts.mp found
  have visible : Text.isBlank '<' = false := by decide
  have sign : ∀ rest, Text.compact ('<' :: '=' :: rest) =
      '<' :: '=' :: (Text.spaceBefore rest ++ Text.compact rest) := fun rest => by
    rw [Text.compact_cons visible, Text.spaceBefore_cons (by decide), List.nil_append,
      Text.compact_cons (by decide)]
  have letterVisible : ∀ character ∈ [chain.letter], Text.isBlank character = false := by
    rw [List.forall_mem_singleton]
    rcases letter_eq_of_parse? found with named | named <;> rw [named] <;> decide
  obtain ⟨first, firstPadded, outer⟩ := Text.exists_padded_append (List.forall_mem_nil _) left
    ('<' :: '=' :: (middle ++ '<' :: '=' :: right))
  obtain ⟨second, secondPadded, inner⟩ :=
    Text.exists_padded_append (Text.isBlank_spaceBefore _) middle ('<' :: '=' :: right)
  have thirdPadded := (Text.Padded.refl (Text.compact right)).append_left
    (Text.isBlank_spaceBefore right)
  refine parse?_eq_some_iff_parts.mpr ⟨first, second, _, ?_,
    firstPadded.not_mem_of_compact visible leftFree,
    secondPadded.not_mem_of_compact visible middleFree,
    thirdPadded.not_mem_of_compact visible rightFree,
    firstPadded.trim_eq_word low (isNumeral_iff.mp lowNumeral).visible,
    secondPadded.trim_eq_word letter letterVisible,
    thirdPadded.trim_eq_word high (isNumeral_iff.mp highNumeral).visible,
    lowNumeral, named, highNumeral⟩
  rw [List.nil_append] at outer
  rw [outer, sign, inner, sign]

end Chain

end GraphPrograms
