import GraphPrograms.Proofs.Color.Range

/-!
What a range of color numbers says of a text.

A check has three outcomes: the number that the text denotes is in the range, or outside of it and
named, or the text denotes none that is read (`check_numeric_outcome`).  The largest number is one
that is read, so the bounds of a range need no case of their own.
-/

namespace GraphPrograms.ColorPolicy

variable {text : Text} {value low high : Nat}

theorem check_of_denotes (low high : Nat) (denotes : Denotes (Text.trim text) value)
    (bounded : value ≤ largest) :
    (numeric low high).check text =
      if low ≤ value ∧ value ≤ high then .ok () else .error (.outOfRange value low high) := by
  simp only [check, number?_eq_some_iff.mpr ⟨denotes, bounded⟩]

theorem check_of_not_denotes (none : ∀ value ≤ largest, ¬ Denotes (Text.trim text) value) :
    (numeric low high).check text = .error (.notNumeric low high) := by
  cases read : number? (Text.trim text) with
  | none => simp only [check, read]
  | some value =>
      obtain ⟨denotes, bounded⟩ := number?_eq_some_iff.mp read
      exact absurd denotes (none value bounded)

/-- The outcomes of a check, each with what it says of the text. -/
theorem check_numeric_outcome (low high : Nat) (text : Text) :
    (∃ value ≤ largest, Denotes (Text.trim text) value ∧ (low ≤ value ∧ value ≤ high) ∧
        (numeric low high).check text = .ok ()) ∨
      (∃ value ≤ largest, Denotes (Text.trim text) value ∧ ¬ (low ≤ value ∧ value ≤ high) ∧
        (numeric low high).check text = .error (.outOfRange value low high)) ∨
      ((∀ value ≤ largest, ¬ Denotes (Text.trim text) value) ∧
        (numeric low high).check text = .error (.notNumeric low high)) := by
  by_cases some : ∃ value ≤ largest, Denotes (Text.trim text) value
  · obtain ⟨value, bounded, denotes⟩ := some
    have checked := check_of_denotes low high denotes bounded
    by_cases within : low ≤ value ∧ value ≤ high
    · rw [if_pos within] at checked
      exact .inl ⟨value, bounded, denotes, within, checked⟩
    · rw [if_neg within] at checked
      exact .inr (.inl ⟨value, bounded, denotes, within, checked⟩)
  · have none : ∀ value ≤ largest, ¬ Denotes (Text.trim text) value :=
      fun value bounded denotes => some ⟨value, bounded, denotes⟩
    exact .inr (.inr ⟨none, check_of_not_denotes none⟩)

theorem check_numeric_eq_outOfRange_iff :
    (numeric low high).check text = .error (.outOfRange value low high) ↔
      Denotes (Text.trim text) value ∧ value ≤ largest ∧ ¬ (low ≤ value ∧ value ≤ high) := by
  constructor
  · intro refused
    rcases check_numeric_outcome low high text with
      ⟨_, _, _, _, checked⟩ | ⟨other, bounded, denotes, outside, checked⟩ | ⟨_, checked⟩
    · simp [checked] at refused
    · simp only [checked, Except.error.injEq, ColorRefusal.outOfRange.injEq] at refused
      obtain ⟨rfl, _⟩ := refused
      exact ⟨denotes, bounded, outside⟩
    · simp [checked] at refused
  · rintro ⟨denotes, bounded, outside⟩
    rw [check_of_denotes low high denotes bounded, if_neg outside]

theorem check_numeric_eq_notNumeric_iff :
    (numeric low high).check text = .error (.notNumeric low high) ↔
      ∀ value ≤ largest, ¬ Denotes (Text.trim text) value := by
  refine ⟨fun refused value bounded denotes => ?_, check_of_not_denotes⟩
  rw [check_of_denotes low high denotes bounded] at refused
  split at refused <;> simp at refused

theorem between_comm (first second : Nat) : between first second = between second first := by
  rw [between, between, min_comm, max_comm]

/-- A text passes a range of 32-bit numbers if it denotes one of its numbers.  It is refused with
its number if it denotes another one that is read, and otherwise for denoting none.  The order of
the bounds does not matter. -/
theorem check_between_decides (first second : UInt32) (text : Text) :
    let low := min first.toNat second.toNat
    let high := max first.toNat second.toNat
    let policy := between first.toNat second.toNat
    (policy.check text = .ok () ↔
        ∃ value, Denotes (Text.trim text) value ∧ low ≤ value ∧ value ≤ high) ∧
      (∀ value, policy.check text = .error (.outOfRange value low high) ↔
        Denotes (Text.trim text) value ∧ value ≤ 4294967295 ∧ (value < low ∨ high < value)) ∧
      (policy.check text = .error (.notNumeric low high) ↔
        ¬ ∃ value ≤ 4294967295, Denotes (Text.trim text) value) ∧
      (policy.check text = .ok () ∨
        (∃ value, policy.check text = .error (.outOfRange value low high)) ∨
        policy.check text = .error (.notNumeric low high)) ∧
      policy.check text = (between second.toNat first.toNat).check text := by
  intro low high policy
  have highest : high ≤ 4294967295 := by
    have firstBound := first.toNat_lt
    have secondBound := second.toNat_lt
    omega
  refine ⟨?_, fun value => ?_, ?_, ?_, by rw [between_comm second.toNat]⟩
  · refine check_numeric_eq_ok_iff.trans ⟨?_, ?_⟩
    · rintro ⟨value, denotes, _, within⟩
      exact ⟨value, denotes, within⟩
    · rintro ⟨value, denotes, within⟩
      exact ⟨value, denotes, Nat.le_trans within.2 highest, within⟩
  · rw [← not_le, ← not_le, ← not_and_or]
    exact check_numeric_eq_outOfRange_iff
  · push Not
    exact check_numeric_eq_notNumeric_iff
  · rcases check_numeric_outcome low high text with
      ⟨_, _, _, _, checked⟩ | ⟨value, _, _, _, checked⟩ | ⟨_, checked⟩
    · exact .inl checked
    · exact .inr (.inl ⟨value, checked⟩)
    · exact .inr (.inr checked)

end GraphPrograms.ColorPolicy
