import GraphPrograms.Proofs.Storage.Naming
import GraphPrograms.Text.Cluster
import GraphPrograms.Text.Control
import GraphPrograms.Text.Width

/-!
Texts of printable ASCII.

Their clusters are their characters, each of which takes one column, and none is a control
character.  So what is drawn of such a text is told by its characters and their number.
-/

namespace GraphPrograms.Text

variable {text left right part : Text} {character : Char}

/-- A text of ASCII, control characters among it or not. -/
def Ascii (text : Text) : Prop := ∀ character ∈ text, character.toNat < 0x80

/-- The characters that a typewriter has, the space among them. -/
def isTyped (character : Char) : Bool :=
  decide (0x20 ≤ character.toNat) && decide (character.toNat < 0x7F)

/-- A text of printable ASCII. -/
def Typed (text : Text) : Prop := ∀ character ∈ text, isTyped character = true

instance (text : Text) : Decidable (Ascii text) := List.decidableBAll _ _

instance (text : Text) : Decidable (Typed text) := List.decidableBAll _ _

@[simp] theorem isTyped_iff :
    isTyped character = true ↔ 0x20 ≤ character.toNat ∧ character.toNat < 0x7F := by
  simp [isTyped]

@[simp] theorem typed_nil : Typed [] := List.forall_mem_nil _

@[simp] theorem typed_cons_iff :
    Typed (character :: text) ↔ isTyped character = true ∧ Typed text :=
  List.forall_mem_cons

@[simp] theorem typed_append_iff : Typed (left ++ right) ↔ Typed left ∧ Typed right :=
  List.forall_mem_append

theorem Typed.of_subset (typed : Typed text) (subset : part ⊆ text) : Typed part :=
  fun character inside => typed character (subset inside)

theorem Typed.ascii (typed : Typed text) : Ascii text := by
  intro character inside
  have bounds := isTyped_iff.mp (typed character inside)
  omega

theorem typed_of_isDigit (digits : ∀ character ∈ text, character.isDigit = true) : Typed text := by
  intro character inside
  have digit := digits character inside
  simp only [Char.isDigit, Bool.and_eq_true, decide_eq_true_eq, UInt32.le_iff_toNat_le] at digit
  have low : 48 ≤ character.toNat := digit.1
  have high : character.toNat ≤ 57 := digit.2
  rw [isTyped_iff]
  omega

@[simp] theorem typed_ofNat (number : Nat) : Typed (ofNat number) :=
  typed_of_isDigit fun _ => isDigit_of_mem_ofNat

theorem Typed.printable (typed : Typed text) : Typed (printable text) :=
  typed.of_subset List.filter_sublist.subset

theorem not_isControl_of_isTyped (typed : isTyped character = true) :
    isControl character = false := by
  rw [isTyped_iff] at typed
  simp only [isControl, inRanges, List.any_cons, List.any_nil, Bool.or_false,
    Bool.or_eq_false_iff, Bool.and_eq_false_iff, decide_eq_false_iff_not]
  omega

theorem joining_of_isTyped (typed : isTyped character = true) : joining character = .other := by
  rw [isTyped_iff] at typed
  unfold joining
  simp only
  rw [if_neg (by omega), if_neg (by omega), if_neg (by omega), if_pos (by omega)]

theorem clusters_of_typed (typed : Typed text) : clusters text = text.map ([·]) := by
  induction text with
  | nil => simp
  | cons first rest ih =>
      obtain ⟨firstTyped, restTyped⟩ := typed_cons_iff.mp typed
      have single : clusterTail (.start .other) rest = ([], rest) := by
        cases rest with
        | nil => rfl
        | cons second rest =>
            rw [clusterTail, joining_of_isTyped (typed_cons_iff.mp restTyped).1]
            rfl
      rw [clusters_cons, joining_of_isTyped firstTyped, single, ih restTyped, List.map_cons]

theorem widthStep_of_isTyped (typed : isTyped character = true) :
    widthStep character .plain = (1, .plain) := by
  rw [isTyped_iff] at typed
  unfold widthStep
  simp only [ligature?]
  rw [if_neg (by omega), if_neg (by omega), if_neg (by omega), if_neg (by omega),
    if_pos (by omega)]

theorem measure_of_typed (typed : Typed text) :
    measure text = ((text.length : Int), Beyond.plain) := by
  induction text with
  | nil => rfl
  | cons first rest ih =>
      obtain ⟨firstTyped, restTyped⟩ := typed_cons_iff.mp typed
      simp only [measure, ih restTyped, widthStep_of_isTyped firstTyped, List.length_cons,
        Int.natCast_succ]

theorem width_of_typed (typed : Typed text) : width text = text.length := by
  rw [width, measure_of_typed typed]
  exact Int.toNat_natCast _

end GraphPrograms.Text
