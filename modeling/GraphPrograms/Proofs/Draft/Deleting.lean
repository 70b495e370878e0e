import GraphPrograms.Proofs.Draft.Entering

/-!
Where the cursor stands after something is deleted.

The two texts beside a deleted cluster come to stand together, and the clusters at their ends may
become one.  The clusters before the gap are as many as ever, so the cursor, which counts them, is
at the gap, or behind the one cluster that has grown over it.
-/

namespace GraphPrograms.Draft

variable {draft : Draft} {left right : Text} {count : Nat}

/-- A draft whose cursor stands between two texts, or behind the cluster that reaches from the one
into the other. -/
structure StandsBetween (draft : Draft) (left right : Text) : Prop where
  text : draft.text = left ++ right
  behind : draft.StandsBehind left.length
  counted : draft.cursor = (Text.clusters draft.before).length

/-- The draft without what is between its first clusters and the cursor. -/
def cutTo (draft : Draft) (count : Nat) : Draft := ⟨draft.upTo count ++ draft.after, count⟩

theorem clusters_beyond (draft : Draft) (count : Nat) :
    Text.clusters (draft.beyond count) = (Text.clusters draft.text).drop count :=
  Text.clusters_flatten_drop draft.text count

theorem upTo_pred_cursor (within : draft.cursor ≤ draft.clusterCount) :
    draft.upTo (draft.cursor - 1) = (Text.clusters draft.before).dropLast.flatten := by
  rw [List.dropLast_eq_take, length_clusters_before within, before, clusters_upTo, List.take_take,
    Nat.min_eq_left (Nat.sub_le _ _), upTo]

theorem beyond_succ_cursor (draft : Draft) :
    draft.beyond (draft.cursor + 1) = (Text.clusters draft.after).tail.flatten := by
  rw [after, clusters_beyond, List.tail_drop, beyond]

theorem before_eq_nil_iff (within : draft.cursor ≤ draft.clusterCount) :
    draft.before = [] ↔ draft.cursor = 0 := by
  constructor
  · intro nothing
    have none := length_clusters_before within
    rw [nothing, Text.clusters_nil] at none
    exact none.symm
  · intro start
    rw [before, start, upTo, List.take_zero, List.flatten_nil]

theorem after_eq_nil_iff : draft.after = [] ↔ draft.clusterCount ≤ draft.cursor := by
  rw [clusterCount, ← List.drop_eq_nil_iff, ← clusters_beyond]
  constructor
  · intro nothing
    exact (congrArg Text.clusters nothing).trans Text.clusters_nil
  · intro none
    rw [after, ← Text.flatten_clusters (draft.beyond draft.cursor), none, List.flatten_nil]

theorem cutTo_cursor (draft : Draft) : draft.cutTo draft.cursor = draft :=
  congrArg (Draft.mk · draft.cursor) draft.before_append_after

theorem deleteBack_eq (draft : Draft) : draft.deleteBack = draft.cutTo (draft.cursor - 1) := by
  unfold deleteBack
  split
  · rename_i start
    have same : draft.cursor - 1 = draft.cursor := by omega
    rw [same, cutTo_cursor]
  · rfl

theorem text_deleteForward (draft : Draft) :
    draft.deleteForward.text = draft.before ++ draft.beyond (draft.cursor + 1) := by
  unfold deleteForward
  split
  · rfl
  · rename_i atEnd
    have nothing := after_eq_nil_iff.mpr (Nat.le_of_not_lt atEnd)
    have whole := before_append_after draft
    rw [nothing] at whole
    rw [beyond_succ_cursor, nothing, Text.clusters_nil]
    exact whole.symm

theorem cursor_deleteForward (draft : Draft) : draft.deleteForward.cursor = draft.cursor := by
  unfold deleteForward
  split <;> rfl

theorem standsBetween_of_cursor (text : draft.text = left ++ right)
    (cursor : draft.cursor = (Text.clusters left).length) : draft.StandsBetween left right := by
  have behind := (standsBehind_iff text).mpr cursor
  exact ⟨text, behind, (length_clusters_before behind.cursor_le).symm⟩

/-- Deleting takes away the one cluster before the cursor, or the one behind it, if there is one,
and leaves the cursor at the gap or behind the cluster that has grown over it. -/
theorem deleting_takes_one_cluster (within : draft.cursor ≤ draft.clusterCount) :
    draft.deleteBack.StandsBetween (Text.clusters draft.before).dropLast.flatten draft.after ∧
      draft.deleteForward.StandsBetween draft.before (Text.clusters draft.after).tail.flatten ∧
      (draft.before = [] → draft.deleteBack = draft) ∧
      (draft.after = [] → draft.deleteForward = draft) := by
  refine ⟨?back, ?forward, fun nothing => ?backIdle, fun nothing => ?forwardIdle⟩
  case back =>
    have fewer : draft.cursor - 1 ≤ draft.clusterCount := Nat.le_trans (Nat.sub_le _ _) within
    rw [← upTo_pred_cursor within, deleteBack_eq]
    exact standsBetween_of_cursor rfl (length_clusters_upTo fewer).symm
  case forward =>
    rw [← beyond_succ_cursor]
    refine standsBetween_of_cursor (text_deleteForward draft) ?_
    rw [cursor_deleteForward, length_clusters_before within]
  case backIdle => rw [deleteBack, if_pos ((before_eq_nil_iff within).mp nothing)]
  case forwardIdle => rw [deleteForward, if_neg (Nat.not_lt_of_le (after_eq_nil_iff.mp nothing))]

/-- Between two jamo the cursor is left behind the syllable that they make. -/
theorem deleting_takes_one_cluster_jamo :
    let draft : Draft := ⟨['ᄀ', 'x', 'ᅡ'], 2⟩
    draft.cursor ≤ draft.clusterCount ∧
      draft.deleteBack.StandsBetween ['ᄀ'] ['ᅡ'] ∧ draft.deleteBack.before = ['ᄀ', 'ᅡ'] ∧
      draft.deleteForward.StandsBetween ['ᄀ', 'x'] [] := by
  intro draft
  have within : draft.cursor ≤ draft.clusterCount := by decide +kernel
  have shorter : (Text.clusters draft.before).dropLast.flatten = ['ᄀ'] := by decide +kernel
  have after : draft.after = ['ᅡ'] := by decide +kernel
  have before : draft.before = ['ᄀ', 'x'] := by decide +kernel
  have later : (Text.clusters draft.after).tail.flatten = [] := by decide +kernel
  obtain ⟨back, forward, _⟩ := deleting_takes_one_cluster within
  rw [shorter, after] at back
  rw [before, later] at forward
  exact ⟨within, back, by decide +kernel, forward⟩

end GraphPrograms.Draft
