import GraphPrograms.Text.Cluster
import GraphPrograms.Text.Control
import GraphPrograms.Text.Width
import Mathlib.Algebra.Ring.Nat

/-!
Control characters among clusters, and the columns that they are counted for.

A control character makes a cluster with no other one, but for a carriage return and its line feed
(`all_isControl_of_any`), and the cluster counts for a column although it is not drawn.  So texts
without it have fewer columns (`columns_filter_eq_iff`).
-/

namespace GraphPrograms.Text

variable {text cluster : Text} {seam : Seam} {character : Char}

theorem wideJoining_ne (code : Nat) :
    wideJoining code ≠ .carriageReturn ∧ wideJoining code ≠ .lineFeed := by
  fun_cases wideJoining code <;> simp

theorem isControl_of_joining
    (breaks : joining character = .carriageReturn ∨ joining character = .lineFeed) :
    isControl character = true := by
  have wide := wideJoining_ne character.toNat
  unfold joining at breaks
  simp only at breaks
  simp only [isControl, inRanges, List.any_cons, List.any_nil, Bool.or_false, Bool.or_eq_true,
    Bool.and_eq_true, decide_eq_true_eq]
  grind

theorem joining_of_isControl (control : isControl character = true) :
    joining character = .carriageReturn ∨ joining character = .lineFeed ∨
      joining character = .control := by
  have upper : ∀ code < 160, 128 ≤ code → wideJoining code = .control := by decide +kernel
  simp only [isControl, inRanges, List.any_cons, List.any_nil, Bool.or_false, Bool.or_eq_true,
    Bool.and_eq_true, decide_eq_true_eq] at control
  unfold joining
  simp only
  split
  · exact .inl rfl
  · split
    · exact .inr (.inl rfl)
    · split
      · exact .inr (.inr rfl)
      · rw [if_neg (by omega), upper _ (by omega) (by omega)]
        exact .inr (.inr rfl)

/-- Before a control character a cluster ends, unless it is the line feed of a carriage return. -/
theorem not_joins_of_isControl (control : isControl character = true)
    (noReturn : seam.last ≠ .carriageReturn) : seam.joins (joining character) = false := by
  rcases joining_of_isControl control with joins | joins | joins <;>
  · rw [joins]
    unfold Seam.joins
    split <;> simp_all

/-- Behind a control character a cluster ends. -/
theorem clusterTail_of_closed (closed : seam.last = .lineFeed ∨ seam.last = .control) :
    clusterTail seam text = ([], text) := by
  cases text with
  | nil => rfl
  | cons next rest =>
      have parts : seam.joins (joining next) = false := by
        unfold Seam.joins
        rcases closed with last | last <;> rw [last]
      simp [clusterTail, parts]

theorem not_isControl_of_mem_clusterTail (noReturn : seam.last ≠ .carriageReturn)
    (member : character ∈ (clusterTail seam text).1) : isControl character = false := by
  induction text generalizing seam with
  | nil => simp [clusterTail] at member
  | cons next rest ih =>
      rw [clusterTail] at member
      split at member
      · rename_i joins
        have plain : isControl next = false := by
          by_contra control
          rw [not_joins_of_isControl (by simpa using control) noReturn] at joins
          contradiction
        rcases List.mem_cons.mp member with rfl | later
        · exact plain
        · refine ih (fun last => ?_) later
          rw [isControl_of_joining (.inl last)] at plain
          contradiction
      · simp at member

/-- Characters of a cluster that begins with a control character are control characters. -/
theorem isControl_of_mem_clusterTail {first : Char} (control : isControl first = true)
    (member : character ∈ (clusterTail (.start (joining first)) text).1) :
    isControl character = true := by
  by_cases closed : (Seam.start (joining first)).last = .lineFeed ∨
      (Seam.start (joining first)).last = .control
  · rw [clusterTail_of_closed closed] at member
    contradiction
  · have last : (Seam.start (joining first)).last = .carriageReturn := by
      rcases joining_of_isControl control with joins | joins | joins <;> simp_all [Seam.start]
    cases text with
    | nil => simp [clusterTail] at member
    | cons next rest =>
        rw [clusterTail] at member
        split at member
        · rename_i joins
          -- A carriage return is joined by a line feed only, and nothing joins that.
          have feed : joining next = .lineFeed := by
            unfold Seam.joins at joins
            split at joins <;> simp_all
          rw [clusterTail_of_closed (.inl (by simpa [Seam.push] using feed))] at member
          rw [List.mem_singleton.mp member]
          exact isControl_of_joining (.inr feed)
        · simp at member

theorem all_isControl_of_any (member : cluster ∈ clusters text)
    (control : cluster.any isControl = true) : cluster.all isControl = true := by
  fun_induction clusters text with
  | case1 => simp at member
  | case2 first rest parts ih =>
      rcases List.mem_cons.mp member with rfl | later
      · rw [List.all_eq_true]
        cases begins : isControl first with
        | true =>
            intro character inside
            rcases List.mem_cons.mp inside with rfl | tail
            · exact begins
            · exact isControl_of_mem_clusterTail begins tail
        | false =>
            obtain ⟨found, inside, isControl⟩ := List.any_eq_true.mp control
            have noReturn : (Seam.start (joining first)).last ≠ .carriageReturn := fun last => by
              rw [isControl_of_joining (.inl last)] at begins
              contradiction
            rcases List.mem_cons.mp inside with rfl | tail
            · rw [begins] at isControl
              contradiction
            · rw [not_isControl_of_mem_clusterTail noReturn tail] at isControl
              contradiction
      · exact ih later

/-- A control character takes one column, or none as the carriage return of a line feed. -/
theorem widthStep_of_isControl {beyond : Beyond} (control : isControl character = true)
    (plain : beyond = .plain ∨ beyond = .lineFeed) :
    0 ≤ (widthStep character beyond).1 ∧
      (beyond = .plain → (widthStep character beyond).1 = 1) ∧
      ((widthStep character beyond).2 = .plain ∨ (widthStep character beyond).2 = .lineFeed) := by
  simp only [isControl, inRanges, List.any_cons, List.any_nil, Bool.or_false, Bool.or_eq_true,
    Bool.and_eq_true, decide_eq_true_eq] at control
  have small : character.toNat ≤ 0xA0 := by omega
  have noSelector : character.toNat ≠ 0xFE0F ∧ character.toNat ≠ 0xFE0E := by omega
  unfold widthStep
  rcases plain with rfl | rfl <;>
    simp only [noSelector.1, noSelector.2, small, if_true, if_false, ligature?] <;>
    split <;> simp_all
  split <;> simp_all

theorem width_pos_of_all_isControl (visible : text ≠ []) (control : text.all isControl = true) :
    0 < width text := by
  have counts : 0 < (measure text).1 ∧
      ((measure text).2 = .plain ∨ (measure text).2 = .lineFeed) := by
    induction text with
    | nil => contradiction
    | cons first rest ih =>
        rw [List.all_cons, Bool.and_eq_true] at control
        by_cases last : rest = []
        · subst last
          have none : Beyond.plain = .plain := rfl
          obtain ⟨_, one, plain⟩ := widthStep_of_isControl control.1 (.inl none)
          have single := one none
          simp only [measure]
          exact ⟨by omega, plain⟩
        · obtain ⟨some, begins⟩ := ih last control.2
          obtain ⟨more, _, plain⟩ := widthStep_of_isControl control.1 begins
          simp only [measure]
          exact ⟨by omega, plain⟩
  unfold width
  omega

/-- The columns of texts one behind the other, each by itself. -/
def columns (texts : List Text) : Nat := (texts.map width).sum

@[simp] theorem columns_nil : columns [] = 0 := rfl

@[simp] theorem columns_cons (first : Text) (rest : List Text) :
    columns (first :: rest) = width first + columns rest := List.sum_cons

@[simp] theorem columns_append (left right : List Text) :
    columns (left ++ right) = columns left + columns right := by
  simp [columns]

theorem columns_filter_le (texts : List Text) (keep : Text → Bool) :
    columns (texts.filter keep) ≤ columns texts := by
  induction texts with
  | nil => exact Nat.le_refl _
  | cons first rest ih =>
      rw [List.filter_cons, columns_cons]
      split
      · exact Nat.add_le_add_left ih _
      · exact Nat.le_add_left_of_le ih

/-- Texts that take columns are missed when they are left out. -/
theorem columns_filter_eq_iff {texts : List Text} {keep : Text → Bool}
    (wide : ∀ piece ∈ texts, keep piece = false → 0 < width piece) :
    columns (texts.filter keep) = columns texts ↔ ∀ piece ∈ texts, keep piece = true := by
  induction texts with
  | nil => simp
  | cons first rest ih =>
      obtain ⟨firstWide, restWide⟩ := List.forall_mem_cons.mp wide
      cases kept : keep first with
      | true => simp [kept, ih restWide]
      | false =>
          have lost := firstWide kept
          have atMost := columns_filter_le rest keep
          rw [List.filter_cons_of_neg (by simp [kept]), columns_cons]
          simp only [List.forall_mem_cons, kept, Bool.false_eq_true, false_and, iff_false]
          omega

end GraphPrograms.Text
