import GraphPrograms.Text.Blank
import Mathlib.Data.List.DropRight

/-!
Laws of trimming.

A text is trimmed if neither of its ends is blank.  Trimming makes every text such a text, leaves
such texts alone, and does not see blanks that are put around a text.
-/

namespace GraphPrograms.Text

variable {character : Char} {text blanks : Text}

theorem isBlank_head?_trim (first : (trim text).head? = some character) :
    isBlank character = false := by
  obtain ⟨ending, whole⟩ := List.rdropWhile_prefix isBlank (trimStart text)
  obtain ⟨rest, trimmed⟩ := List.head?_eq_some_iff.mp first
  have stopped := List.head?_dropWhile_not isBlank text
  have starts : text.dropWhile isBlank = character :: (rest ++ ending) := by
    rw [← List.cons_append, ← trimmed]
    exact whole.symm
  rw [starts, List.head?_cons] at stopped
  exact stopped

theorem isBlank_getLast?_trim (last : (trim text).getLast? = some character) :
    isBlank character = false := by
  have stopped := List.head?_dropWhile_not isBlank (trimStart text).reverse
  rw [trim, trimEnd, List.getLast?_reverse] at last
  rw [last] at stopped
  exact stopped

theorem trim_eq_self_iff :
    trim text = text ↔
      (∀ first ∈ text.head?, isBlank first = false) ∧
        ∀ last ∈ text.getLast?, isBlank last = false := by
  constructor
  · intro trimmed
    rw [← trimmed]
    exact ⟨fun _ => isBlank_head?_trim, fun _ => isBlank_getLast?_trim⟩
  · rintro ⟨visibleStart, visibleEnd⟩
    have start : trimStart text = text := by
      cases text with
      | nil => rfl
      | cons first rest => simp [trimStart, visibleStart first rfl]
    rw [trim, start]
    cases backwards : text.reverse with
    | nil =>
        obtain rfl := List.reverse_eq_nil_iff.mp backwards
        rfl
    | cons last rest =>
        have ends : text.getLast? = some last := by
          rw [← List.head?_reverse, backwards, List.head?_cons]
        rw [trimEnd, backwards, List.dropWhile_cons_of_neg (by simp [visibleEnd last ends]),
          ← backwards, List.reverse_reverse]

@[simp] theorem trim_trim (text : Text) : trim (trim text) = trim text :=
  trim_eq_self_iff.mpr ⟨fun _ => isBlank_head?_trim, fun _ => isBlank_getLast?_trim⟩

theorem trim_append_left (blank : ∀ character ∈ blanks, isBlank character) (text : Text) :
    trim (blanks ++ text) = trim text := by
  rw [trim, trimStart, List.dropWhile_append_of_pos blank]
  rfl

theorem trim_append_right (text : Text) (blank : ∀ character ∈ blanks, isBlank character) :
    trim (text ++ blanks) = trim text := by
  -- Blanks at the start of the text go on both sides, up to the first character that stays.
  induction text with
  | nil => simpa using trim_append_left blank []
  | cons first rest ih =>
      by_cases blankFirst : isBlank first
      · have single : ∀ character ∈ [first], isBlank character := by simpa using blankFirst
        rw [List.cons_append]
        exact ((trim_append_left single _).trans ih).trans (trim_append_left single rest).symm
      · have backwards : ∀ character ∈ blanks.reverse, isBlank character := by
          simpa using blank
        simp only [trim, trimStart, List.cons_append, List.dropWhile_cons_of_neg blankFirst]
        rw [trimEnd, ← List.cons_append, List.reverse_append,
          List.dropWhile_append_of_pos backwards, trimEnd]

end GraphPrograms.Text
