import GraphPrograms.Proofs.Equation.Bounded
import GraphPrograms.Proofs.Text.Upper
import Mathlib.Computability.RegularExpressions

/-!
The pattern of a chain.

Chains are said by a regular expression, in which a numeral has two forms, with digits before its
point or without.  A text that matches it is written in nine parts (`Written`), and in one way only
(`Written.text_injective`): the order signs stand apart from all else, and a word without blanks
stands apart from the blanks around it.  So however a matcher goes about it, the parts that it
captures are these, and they are the ones that a constraint is read into.
-/

namespace GraphPrograms

namespace Text

variable {character : Char} {text : Text} {letters : List Char}

/-- The letters in ranges of code points, whose bounds both belong to them. -/
def lettersIn (ranges : List (Nat × Nat)) : List Char :=
  ranges.flatMap fun range => (List.range' range.1 (range.2 + 1 - range.1)).map Char.ofNat

theorem mem_lettersIn_iff {ranges : List (Nat × Nat)}
    (low : ∀ range ∈ ranges, range.2 < 0xD800) :
    character ∈ lettersIn ranges ↔ inRanges ranges character.toNat = true := by
  simp only [lettersIn, inRanges, List.mem_flatMap, List.mem_map, List.mem_range'_1,
    List.any_eq_true, Bool.and_eq_true, decide_eq_true_eq]
  constructor
  · rintro ⟨range, listed, code, ⟨least, most⟩, rfl⟩
    have below := low range listed
    have valid : code.isValidChar := .inl (by omega)
    rw [toNat_ofNat valid]
    exact ⟨range, listed, least, by omega⟩
  · rintro ⟨range, listed, least, most⟩
    exact ⟨range, listed, character.toNat, ⟨least, by omega⟩, Char.ofNat_toNat character⟩

open RegularExpression

def oneOf (letters : List Char) : RegularExpression Char := (letters.map char).sum

theorem mem_oneOf : text ∈ (oneOf letters).matches' ↔ ∃ letter ∈ letters, text = [letter] := by
  induction letters with
  | nil => simp [oneOf, Language.notMem_zero]
  | cons first rest ih =>
      change text ∈ (char first + oneOf rest).matches' ↔ _
      rw [matches'_add, Language.mem_add, ih, matches'_char, List.exists_mem_cons_iff]
      rfl

theorem mem_star_oneOf :
    text ∈ (oneOf letters).star.matches' ↔ ∀ letter ∈ text, letter ∈ letters := by
  rw [matches'_star, Language.mem_kstar]
  constructor
  · rintro ⟨pieces, rfl, each⟩ letter inside
    obtain ⟨piece, listed, inPiece⟩ := List.mem_flatten.mp inside
    obtain ⟨only, allowed, rfl⟩ := mem_oneOf.mp (each piece listed)
    rwa [List.mem_singleton.mp inPiece]
  · intro allowed
    refine ⟨text.map ([·]), (List.flatMap_singleton' text).symm, fun piece listed => ?_⟩
    obtain ⟨letter, inside, rfl⟩ := List.mem_map.mp listed
    exact mem_oneOf.mpr ⟨letter, allowed letter inside, rfl⟩

end Text

open RegularExpression Text

namespace Plain.Spaced

variable {Part : Type} {write : Part → Text}

/-- A part without blanks is found again among the blanks around it. -/
theorem text_injective (injective : Function.Injective write)
    (something : ∀ part, write part ≠ [])
    (visible : ∀ part, ∀ character ∈ write part, isBlank character = false) :
    Function.Injective fun spaced : Spaced Part => spaced.text write := by
  rintro spaced other (same : spaced.text write = other.text write)
  -- Trimming finds the part, and the blanks that the text starts with are those before it.
  have trims : trim (spaced.text write) = trim (other.text write) := congrArg trim same
  rw [(spaced.padded write).trim_eq, (other.padded write).trim_eq, trim_eq_self (visible _),
    trim_eq_self (visible _)] at trims
  have parts := injective trims
  have start : ∀ spaced : Spaced Part,
      (spaced.text write).takeWhile isBlank = spaced.before.1 := fun spaced => by
    obtain ⟨first, rest, starts⟩ := List.exists_cons_of_ne_nil (something spaced.part)
    have stops := visible spaced.part first (starts ▸ List.mem_cons_self)
    rw [text, List.append_assoc, List.takeWhile_append_of_pos spaced.before.2, starts]
    simp [stops]
  have before : spaced.before.1 = other.before.1 := by rw [← start, ← start, same]
  obtain ⟨⟨ahead, _⟩, part, ⟨behind, _⟩⟩ := spaced
  obtain ⟨⟨otherAhead, _⟩, otherPart, ⟨otherBehind, _⟩⟩ := other
  obtain rfl : ahead = otherAhead := before
  obtain rfl : part = otherPart := parts
  obtain rfl : behind = otherBehind := List.append_cancel_left same
  rfl

theorem exists_of_padded (write : Part → Text) (part : Part) {text : Text}
    (padded : Padded (write part) text) : ∃ spaced : Spaced Part, spaced.text write = text := by
  obtain ⟨blankBefore, blankAfter⟩ := padded
  exact ⟨⟨⟨_, blankBefore⟩, part, ⟨_, blankAfter⟩⟩, rfl⟩

end Plain.Spaced

namespace Chain

variable {constraint : Text}

def blankPattern : RegularExpression Char := oneOf (lettersIn blankRanges)

def digitPattern : RegularExpression Char := oneOf (lettersIn [(0x30, 0x39)])

def digitsPattern : RegularExpression Char := digitPattern * digitPattern.star

def amongBlanks (word : RegularExpression Char) : RegularExpression Char :=
  blankPattern.star * word * blankPattern.star

/-- Digits with a point behind some of them or without one, or a point with digits behind it. -/
def unsignedPattern : RegularExpression Char :=
  digitsPattern * (char '.' + 1) * digitPattern.star + char '.' * digitsPattern

def numeralPattern : RegularExpression Char := (oneOf "-+".toList + 1) * unsignedPattern

def orderPattern : RegularExpression Char := char '<' * char '='

/-- A numeral, a variable and a numeral, with order signs between them. -/
def pattern : RegularExpression Char :=
  amongBlanks numeralPattern * orderPattern * amongBlanks (oneOf ['X', 'Y']) * orderPattern *
    amongBlanks numeralPattern

abbrev Decimal := { text : Text // Numeral text }

abbrev Letter := { letter : Char // isLetter letter = true }

def Letter.text (letter : Letter) : Text := [letter.1]

/-- A chain as it is written: its three words with blanks around them. -/
structure Written where
  low : Plain.Spaced Decimal
  letter : Plain.Spaced Letter
  high : Plain.Spaced Decimal

def Written.text (written : Written) : Text :=
  written.low.text Subtype.val ++ '<' :: '=' ::
    (written.letter.text Letter.text ++ '<' :: '=' :: written.high.text Subtype.val)

def Written.chain (written : Written) : Chain :=
  ⟨written.low.part, written.letter.part, written.high.part⟩

theorem mem_star_blankPattern {text : Text} :
    text ∈ blankPattern.star.matches' ↔ ∀ character ∈ text, isBlank character = true := by
  have blanks : ∀ character, character ∈ lettersIn blankRanges ↔ isBlank character = true :=
    fun _ => mem_lettersIn_iff (List.forall_iff_forall_mem.mp (by decide))
  simp only [blankPattern, mem_star_oneOf, blanks]

theorem mem_digits {character : Char} :
    character ∈ lettersIn [(0x30, 0x39)] ↔ character.isDigit = true := by
  rw [mem_lettersIn_iff (by simp)]
  simp [inRanges, Char.isDigit, UInt32.le_iff_toNat_le]

theorem mem_star_digitPattern {text : Text} :
    text ∈ digitPattern.star.matches' ↔ ∀ digit ∈ text, digit.isDigit := by
  simp only [digitPattern, mem_star_oneOf, mem_digits]

theorem mem_digitsPattern {text : Text} :
    text ∈ digitsPattern.matches' ↔ text ≠ [] ∧ ∀ digit ∈ text, digit.isDigit := by
  simp only [digitsPattern, matches'_mul, Language.mem_mul, mem_star_digitPattern]
  constructor
  · rintro ⟨first, one, rest, more, rfl⟩
    obtain ⟨digit, listed, rfl⟩ := mem_oneOf.mp one
    exact ⟨by simp, List.forall_mem_cons.mpr ⟨mem_digits.mp listed, more⟩⟩
  · rintro ⟨visible, ascii⟩
    obtain ⟨digit, rest, rfl⟩ := List.exists_cons_of_ne_nil visible
    obtain ⟨first, later⟩ := List.forall_mem_cons.mp ascii
    exact ⟨[digit], mem_oneOf.mpr ⟨digit, mem_digits.mpr first, rfl⟩, rest, later, rfl⟩

theorem mem_amongBlanks {Part : Type} {write : Part → Text} {word : RegularExpression Char}
    (words : ∀ text, text ∈ word.matches' ↔ ∃ part, write part = text) {text : Text} :
    text ∈ (amongBlanks word).matches' ↔
      ∃ spaced : Plain.Spaced Part, spaced.text write = text := by
  simp only [amongBlanks, matches'_mul, Language.mem_mul, words, mem_star_blankPattern]
  constructor
  · rintro ⟨_, ⟨before, blankBefore, _, ⟨part, rfl⟩, rfl⟩, after, blankAfter, rfl⟩
    exact ⟨⟨⟨before, blankBefore⟩, part, ⟨after, blankAfter⟩⟩, rfl⟩
  · rintro ⟨spaced, rfl⟩
    exact ⟨_, ⟨_, spaced.before.2, _, ⟨spaced.part, rfl⟩, rfl⟩, _, spaced.after.2, rfl⟩

theorem mem_char {text : Text} {letter : Char} : text ∈ (char letter).matches' ↔ text = [letter] :=
  Iff.rfl

theorem mem_unsignedPattern {text : Text} :
    text ∈ unsignedPattern.matches' ↔ Unsigned text := by
  -- The forms of the pattern are not those of the grammar: a numeral with a point has the first one
  -- unless it begins with the point.
  simp only [unsignedPattern, matches'_add, matches'_mul, Language.mem_add, Language.mem_mul,
    matches'_epsilon, Language.mem_one, mem_digitsPattern, mem_star_digitPattern, mem_char]
  constructor
  · rintro (⟨_, ⟨whole, ⟨visible, ascii⟩, _, rfl | rfl, rfl⟩, fraction, later, rfl⟩ |
      ⟨_, rfl, fraction, ⟨visible, later⟩, rfl⟩)
    · rw [List.append_assoc]
      exact .pointed (.inl visible) (List.forall_mem_append.mpr ⟨ascii, later⟩)
    · rw [List.append_nil]
      exact .whole (by simp [visible]) (List.forall_mem_append.mpr ⟨ascii, later⟩)
    · exact @Unsigned.pointed [] fraction (.inr visible) later
  · intro unsigned
    cases unsigned with
    | whole visible ascii =>
        exact .inl ⟨_, ⟨_, ⟨visible, ascii⟩, [], .inr rfl, rfl⟩, [], List.forall_mem_nil _, by simp⟩
    | @pointed whole fraction visible ascii =>
        obtain ⟨wholeAscii, fractionAscii⟩ := List.forall_mem_append.mp ascii
        by_cases empty : whole = []
        · subst empty
          exact .inr ⟨_, rfl, fraction, ⟨visible.resolve_left fun some => some rfl, fractionAscii⟩,
            rfl⟩
        · exact .inl ⟨_, ⟨whole, ⟨empty, wholeAscii⟩, _, .inl rfl, rfl⟩, fraction, fractionAscii,
            by simp⟩

theorem mem_numeralPattern {text : Text} : text ∈ numeralPattern.matches' ↔ Numeral text := by
  have signs : ∀ sign : Text, (∃ mark ∈ "-+".toList, sign = [mark]) ∨ sign = [] ↔
      sign ∈ [[], ['+'], ['-']] := fun sign => by grind
  simp only [numeralPattern, matches'_mul, Language.mem_mul, matches'_add, Language.mem_add,
    matches'_epsilon, Language.mem_one, mem_oneOf, mem_unsignedPattern, signs]
  constructor
  · rintro ⟨sign, optional, digits, unsigned, rfl⟩
    exact .signed optional unsigned
  · rintro ⟨optional, unsigned⟩
    exact ⟨_, optional, _, unsigned, rfl⟩

theorem mem_orderPattern {text : Text} : text ∈ orderPattern.matches' ↔ text = ['<', '='] := by
  simp only [orderPattern, matches'_mul, Language.mem_mul, mem_char]
  constructor
  · rintro ⟨_, rfl, _, rfl, rfl⟩
    rfl
  · rintro rfl
    exact ⟨_, rfl, _, rfl, rfl⟩

theorem isLetter_iff {letter : Char} : isLetter letter = true ↔ letter ∈ ['X', 'Y'] := by
  simp [isLetter]

theorem mem_pattern_iff :
    constraint ∈ pattern.matches' ↔ ∃ written : Written, written.text = constraint := by
  have numerals : ∀ text, text ∈ numeralPattern.matches' ↔
      ∃ numeral : Decimal, numeral.1 = text := fun text => by
    simp [mem_numeralPattern]
  have letters : ∀ text, text ∈ (oneOf ['X', 'Y']).matches' ↔
      ∃ letter : Letter, letter.text = text := fun text => by
    simp only [mem_oneOf, Letter.text, Subtype.exists, exists_prop, isLetter_iff, @eq_comm _ text]
  simp only [pattern, matches'_mul, Language.mem_mul, mem_amongBlanks numerals,
    mem_amongBlanks letters, mem_orderPattern]
  constructor
  · rintro ⟨_, ⟨_, ⟨_, ⟨_, ⟨low, rfl⟩, _, rfl, rfl⟩, _, ⟨letter, rfl⟩, rfl⟩, _, rfl, rfl⟩, _,
      ⟨high, rfl⟩, rfl⟩
    exact ⟨⟨low, letter, high⟩, by simp [Written.text]⟩
  · rintro ⟨⟨low, letter, high⟩, rfl⟩
    exact ⟨_, ⟨_, ⟨_, ⟨_, ⟨low, rfl⟩, _, rfl, rfl⟩, _, ⟨letter, rfl⟩, rfl⟩, _, rfl, rfl⟩, _,
      ⟨high, rfl⟩, by simp [Written.text]⟩

theorem Numeral.ne_nil {text : Text} (numeral : Numeral text) : text ≠ [] := by
  rintro rfl
  exact absurd numeral.isNumeral (by decide)

theorem Letter.visible (letter : Letter) :
    ∀ character ∈ letter.text, isBlank character = false := by
  obtain ⟨letter, named⟩ := letter
  have names : ∀ name ∈ ['X', 'Y'], isBlank name = false :=
    List.forall_iff_forall_mem.mp (by decide)
  exact List.forall_mem_singleton.mpr (names letter (isLetter_iff.mp named))

theorem sign_not_mem_decimal (spaced : Plain.Spaced Decimal) : '<' ∉ spaced.text Subtype.val :=
  (spaced.padded _).not_mem (by decide) (spaced.part.2.not_mem (by decide) (by decide))

theorem sign_not_mem_letter (spaced : Plain.Spaced Letter) : '<' ∉ spaced.text Letter.text := by
  refine (spaced.padded _).not_mem (by decide) fun inside => ?_
  have named := spaced.part.2
  rw [← List.mem_singleton.mp inside] at named
  exact absurd named (by decide)

namespace Written

theorem parse?_text (written : Written) : parse? written.text = some written.chain := by
  obtain ⟨low, letter, high⟩ := written
  refine parse?_eq_some_iff_parts.mpr ⟨_, _, _, rfl, sign_not_mem_decimal low,
    sign_not_mem_letter letter, sign_not_mem_decimal high, ?low, ?letter, ?high,
    low.part.2.isNumeral, letter.part.2, high.part.2.isNumeral⟩
  case low => exact (low.padded _).trim_eq.trans (trim_eq_self low.part.2.visible)
  case letter => exact (letter.padded _).trim_eq.trans (trim_eq_self letter.part.visible)
  case high => exact (high.padded _).trim_eq.trans (trim_eq_self high.part.2.visible)

theorem text_injective : Function.Injective text := by
  have decimals : Function.Injective fun spaced : Plain.Spaced Decimal =>
      spaced.text Subtype.val :=
    Plain.Spaced.text_injective Subtype.val_injective (fun decimal => decimal.2.ne_nil)
      fun decimal => decimal.2.visible
  have letters : Function.Injective fun spaced : Plain.Spaced Letter => spaced.text Letter.text :=
    Plain.Spaced.text_injective (fun _ _ equal => Subtype.ext (List.singleton_inj.mp equal))
      (fun _ => List.cons_ne_nil _ _) Letter.visible
  rintro ⟨low, letter, high⟩ ⟨otherLow, otherLetter, otherHigh⟩ same
  -- No word has a `<` in it, so the text can be cut at its order signs only.
  have first := congrArg (cut? '<') same
  simp only [text, cut?_append (sign_not_mem_decimal _), Option.some.injEq, Prod.mk.injEq,
    List.cons.injEq, true_and] at first
  have second := congrArg (cut? '<') first.2
  simp only [cut?_append (sign_not_mem_letter _), Option.some.injEq, Prod.mk.injEq,
    List.cons.injEq, true_and] at second
  rw [decimals first.1, letters second.1, decimals second.2]

end Written

theorem exists_written {chain : Chain} (found : parse? constraint = some chain) :
    ∃ written : Written, written.text = constraint := by
  obtain ⟨left, middle, right, rfl, _, _, _, lowTrim, letterTrim, highTrim, lowNumeral, named,
    highNumeral⟩ := parse?_eq_some_iff_parts.mp found
  have lowPadded := padded_trim left
  have letterPadded := padded_trim middle
  have highPadded := padded_trim right
  rw [lowTrim] at lowPadded
  rw [letterTrim] at letterPadded
  rw [highTrim] at highPadded
  let decimal (text : Text) (accepted : isNumeral text = true) : Decimal :=
    ⟨text, isNumeral_iff.mp accepted⟩
  obtain ⟨low, rfl⟩ := Plain.Spaced.exists_of_padded Subtype.val (decimal _ lowNumeral) lowPadded
  obtain ⟨letter, rfl⟩ := Plain.Spaced.exists_of_padded Letter.text ⟨_, named⟩ letterPadded
  obtain ⟨high, rfl⟩ := Plain.Spaced.exists_of_padded Subtype.val (decimal _ highNumeral) highPadded
  exact ⟨⟨low, letter, high⟩, rfl⟩

/-- A constraint that is written as a chain is written so in one way, and the conjunction has the
very words of it; every other constraint is left as it is.  The constraints that are written as
chains are those that match the pattern. -/
theorem conjoined_recognizes_chains (constraint : Text) :
    ((∃ written : Written, (∀ other : Written, other.text = constraint ↔ other = written) ∧
        conjoined constraint =
          written.low.part.1 ++ "<=".toList ++ [written.letter.part.1] ++ " and ".toList ++
            [written.letter.part.1] ++ "<=".toList ++ written.high.part.1) ∨
      (∀ written : Written, written.text ≠ constraint) ∧ conjoined constraint = constraint) ∧
    (constraint ∈ pattern.matches' ↔ ∃ written : Written, written.text = constraint) := by
  refine ⟨?_, mem_pattern_iff⟩
  cases found : parse? constraint with
  | none =>
      refine .inr ⟨?_, by rw [conjoined, found]⟩
      rintro written rfl
      rw [written.parse?_text] at found
      contradiction
  | some chain =>
      obtain ⟨written, rfl⟩ := exists_written found
      refine .inl ⟨written, fun other => Written.text_injective.eq_iff, ?_⟩
      rw [conjoined, written.parse?_text]
      rfl

-- The words of the conjunction are those that were written, whatever blanks stood around them.
example : conjoined " +1.<=\u00A0X <=\t-.5 ".toList = "+1.<=X and X<=-.5".toList := by decide

end Chain

end GraphPrograms
