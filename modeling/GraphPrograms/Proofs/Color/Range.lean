import GraphPrograms.Color.Policy
import GraphPrograms.Proofs.Text.Trim
import GraphPrograms.Proofs.Text.Upper
import Mathlib.Data.Nat.Digits.Defs

/-!
What a range of color numbers lets through.

The check reads the text as it is typed, while a color is trimmed and in upper case.  A number is
trimmed by the check too and has no case, so the color of a text that passes is the very number that
was checked, and passes again.
-/

namespace GraphPrograms

namespace ColorPolicy

variable {text digits : Text} {low high value : Nat}

/-- The value of digits, of which the last counts once and every other ten times the next. -/
def decimal (digits : Text) : Nat :=
  Nat.ofDigits 10 (digits.reverse.map fun digit => digit.toNat - '0'.toNat)

/-- A text that spells a number: digits of ASCII, with a plus sign or none. -/
inductive Denotes : Text → Nat → Prop where
  | unsigned {digits : Text} (visible : digits ≠ []) (ascii : ∀ digit ∈ digits, digit.isDigit) :
      Denotes digits (decimal digits)
  | signed {digits : Text} (visible : digits ≠ []) (ascii : ∀ digit ∈ digits, digit.isDigit) :
      Denotes ('+' :: digits) (decimal digits)

theorem foldl_pushDigit (digits : Text) : digits.foldl pushDigit 0 = decimal digits := by
  induction digits using List.reverseRecOn with
  | nil => rfl
  | append_singleton earlier last ih =>
      rw [List.foldl_append, ih]
      simp only [List.foldl_cons, List.foldl_nil, pushDigit, decimal, List.reverse_append,
        List.reverse_singleton, List.singleton_append, List.map_cons, Nat.ofDigits_cons]
      exact Nat.add_comm _ _

def dropPlus : Text → Text
  | '+' :: rest => rest
  | text => text

theorem dropPlus_of_digits (ascii : ∀ digit ∈ digits, digit.isDigit) : dropPlus digits = digits := by
  unfold dropPlus
  split
  · exact absurd (ascii '+' List.mem_cons_self) (by decide)
  · rfl

theorem dropPlus_eq_or (text : Text) : dropPlus text = text ∨ text = '+' :: dropPlus text := by
  unfold dropPlus
  split
  · exact .inr rfl
  · exact .inl rfl

theorem denotes_iff : Denotes text value ↔
    dropPlus text ≠ [] ∧ (∀ digit ∈ dropPlus text, digit.isDigit) ∧
      decimal (dropPlus text) = value := by
  constructor
  · intro denotes
    cases denotes with
    | unsigned visible ascii =>
        rw [dropPlus_of_digits ascii]
        exact ⟨visible, ascii, rfl⟩
    | signed visible ascii => exact ⟨visible, ascii, rfl⟩
  · rintro ⟨visible, ascii, rfl⟩
    rcases dropPlus_eq_or text with unsigned | signed
    · rw [unsigned] at visible ascii ⊢
      exact .unsigned visible ascii
    · have denotes := Denotes.signed visible ascii
      rwa [← signed] at denotes

theorem number?_eq_some_iff : number? text = some value ↔ Denotes text value ∧ value ≤ largest := by
  have read : number? text = if (dropPlus text).isEmpty || !(dropPlus text).all Char.isDigit then none
      else if (dropPlus text).foldl pushDigit 0 ≤ largest then
        some ((dropPlus text).foldl pushDigit 0) else none := by
    cases text with
    | nil => rfl
    | cons first rest =>
        by_cases plus : first = '+'
        · subst plus
          rfl
        · simp [number?, dropPlus, plus]
  rw [read, foldl_pushDigit, denotes_iff]
  constructor
  · intro found
    split at found
    · contradiction
    · rename_i spelled
      simp only [Bool.or_eq_true, List.isEmpty_iff, Bool.not_eq_true', not_or,
        Bool.not_eq_false, List.all_eq_true] at spelled
      split at found
      · rename_i bounded
        cases found
        exact ⟨⟨spelled.1, spelled.2, rfl⟩, bounded⟩
      · contradiction
  · rintro ⟨⟨visible, ascii, rfl⟩, bounded⟩
    have all := List.all_eq_true.mpr ascii
    simp [visible, all, bounded]

theorem check_numeric_eq_ok_iff : (numeric low high).check text = .ok () ↔
    ∃ value, Denotes (Text.trim text) value ∧ value ≤ largest ∧ low ≤ value ∧ value ≤ high := by
  cases read : number? (Text.trim text) with
  | none =>
      simp only [check, read, reduceCtorEq, false_iff]
      rintro ⟨value, denotes, bounded, _⟩
      rw [number?_eq_some_iff.mpr ⟨denotes, bounded⟩] at read
      contradiction
  | some value =>
      obtain ⟨denotes, bounded⟩ := number?_eq_some_iff.mp read
      constructor
      · intro passes
        simp only [check, read] at passes
        split at passes
        · rename_i within
          exact ⟨value, denotes, bounded, within⟩
        · contradiction
      · rintro ⟨other, otherDenotes, otherBounded, within⟩
        have same := number?_eq_some_iff.mpr ⟨otherDenotes, otherBounded⟩
        rw [read, Option.some.injEq] at same
        subst same
        simp [check, read, within]

theorem Denotes.ne_nil (denotes : Denotes text value) : text ≠ [] := by
  cases denotes with
  | unsigned visible ascii => exact visible
  | signed visible ascii => exact List.cons_ne_nil _ _

theorem Denotes.characters (denotes : Denotes text value) :
    ∀ character ∈ text, character = '+' ∨ character.isDigit := by
  intro character inside
  cases denotes with
  | unsigned visible ascii => exact .inr (ascii character inside)
  | signed visible ascii => exact (List.mem_cons.mp inside).imp_right (ascii character)

theorem Denotes.upper (denotes : Denotes text value) : Text.upper text = text := by
  apply Text.upper_eq_self
  intro character inside
  rcases denotes.characters character inside with rfl | digit
  · decide
  · simp only [Char.isDigit, Bool.and_eq_true, decide_eq_true_eq, UInt32.le_iff_toNat_le] at digit
    have last : character.toNat ≤ 57 := digit.2
    omega

end ColorPolicy

namespace Color

variable {text : Text} {low high : Nat}

/-- A color that a range of numbers lets through. -/
structure Within (low high : Nat) (color : Color) : Prop where
  passes : (ColorPolicy.numeric low high).check color.token = .ok ()
  number : ∃ value, ColorPolicy.Denotes color.token value ∧ low ≤ value ∧ value ≤ high
  ne_fallback : color ≠ .fallback

theorem within_ofText (passes : (ColorPolicy.numeric low high).check text = .ok ()) :
    (ofText text).Within low high := by
  obtain ⟨value, denotes, bounded, within⟩ := ColorPolicy.check_numeric_eq_ok_iff.mp passes
  have color : ofText text = ⟨Text.trim text⟩ := by
    simp [ofText, denotes.ne_nil, denotes.upper]
  have again : ColorPolicy.Denotes (Text.trim (Text.trim text)) value := by
    rwa [Text.trim_trim]
  rw [color]
  refine ⟨ColorPolicy.check_numeric_eq_ok_iff.mpr ⟨value, again, bounded, within⟩,
    ⟨value, denotes, within⟩, ?_⟩
  intro same
  have word : Text.trim text = "BLACK".toList := congrArg token same
  have letter := denotes.characters 'B' (by rw [word]; decide)
  exact absurd letter (by decide)

end Color

end GraphPrograms
