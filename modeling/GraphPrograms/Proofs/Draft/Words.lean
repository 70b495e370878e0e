import GraphPrograms.Proofs.Draft.Bytes
import GraphPrograms.Proofs.Draft.Deleting
import Mathlib.Data.List.DropRight

/-!
A word deleted cluster by cluster.

After each deletion the clusters of what is left are read anew.  While none of them reaches over the
gap, they are those that were there before, and first the blanks and then the word go.  One that
does reach over it is deleted with what it holds of the text behind the cursor, which nothing brings
back.  So that text stays as it is exactly if no cluster reaches over the gap wherever the deletion
comes by (`deleteWord_spares_after_iff`).
-/

namespace GraphPrograms.Draft

variable {draft between result : Draft} {count fewer start middle stop : Nat} {blank : Bool}

/-- Clusters without the longest run of blank ones at their end, or of ones that are not blank. -/
def withoutRun (blank : Bool) (clusters : List Text) : List Text :=
  clusters.rdropWhile (Text.isAllBlank · == blank)

/-- No cluster reaches over the gap if the draft is cut there. -/
def PartedAt (draft : Draft) (count : Nat) : Prop := Text.Parted (draft.upTo count) draft.after

theorem partedAt_cursor (draft : Draft) : draft.PartedAt draft.cursor := by
  rw [PartedAt, Text.Parted, after, upTo_append_beyond, clusters_upTo, clusters_beyond,
    List.take_append_drop]

section Cutting

variable (within : count ≤ draft.clusterCount)

include within

theorem within_cutTo : (draft.cutTo count).Within :=
  le_length_clusters_upTo_append within draft.after

theorem after_cutTo :
    (draft.cutTo count).after =
      ((Text.clusters (draft.upTo count ++ draft.after)).drop
        (Text.clusters (draft.upTo count)).length).flatten := by
  rw [length_clusters_upTo within]
  rfl

theorem after_cutTo_suffix : (draft.cutTo count).after <:+ draft.after := by
  rw [after_cutTo within]
  exact Text.flatten_drop_suffix _ _

theorem after_cutTo_eq_iff : (draft.cutTo count).after = draft.after ↔ draft.PartedAt count := by
  rw [after_cutTo within]
  exact Text.parted_iff.symm

variable (parted : draft.PartedAt count)

include parted

theorem take_clusters_cutTo (less : fewer ≤ count) :
    (Text.clusters (draft.cutTo count).text).take fewer =
      (Text.clusters draft.text).take fewer := by
  have enough : fewer ≤ (Text.clusters (draft.upTo count)).length := by
    rwa [length_clusters_upTo within]
  rw [cutTo, parted, List.take_append_of_le_length enough, clusters_upTo, List.take_take,
    Nat.min_eq_left less]

theorem upTo_cutTo (less : fewer ≤ count) : (draft.cutTo count).upTo fewer = draft.upTo fewer :=
  congrArg List.flatten (take_clusters_cutTo within parted less)

theorem cutTo_cutTo (less : fewer ≤ count) :
    (draft.cutTo count).cutTo fewer = draft.cutTo fewer := by
  rw [cutTo, upTo_cutTo within parted less, (after_cutTo_eq_iff within).mpr parted, cutTo]

theorem isBlankAt_cutTo {index : Nat} (inside : index < count) :
    (draft.cutTo count).isBlankAt index = draft.isBlankAt index := by
  have same := congrArg (·[index]?) (take_clusters_cutTo within parted (Nat.le_refl count))
  simp only [List.getElem?_take_of_lt inside] at same
  rw [isBlankAt, same, isBlankAt]

end Cutting

/-- What comes of a draft whose clusters are deleted one by one, from one place down to another.
The text behind the cursor is spared exactly if no cluster reaches over the gap at any of these
places, and then the deletions are one cut. -/
structure Deletes (draft result : Draft) (start stop : Nat) : Prop where
  spares_iff : result.after = draft.after ↔
    ∀ count, start ≤ count → count < stop → draft.PartedAt count
  eq_cutTo : result.after = draft.after → result = draft.cutTo start

theorem deletes_self (parted : draft.PartedAt count) (within : count ≤ draft.clusterCount) :
    draft.Deletes (draft.cutTo count) count count where
  spares_iff := iff_of_true ((after_cutTo_eq_iff within).mpr parted)
    fun _ least below => absurd below (Nat.not_lt_of_le least)
  eq_cutTo := fun _ => rfl

theorem deletes_one (within : count ≤ draft.clusterCount) :
    draft.Deletes (draft.cutTo count) count (count + 1) where
  spares_iff := by
    rw [after_cutTo_eq_iff within]
    refine ⟨fun parted place least below => ?_, fun everywhere =>
      everywhere count (Nat.le_refl count) (Nat.lt_succ_self count)⟩
    rwa [Nat.le_antisymm (Nat.le_of_lt_succ below) least]
  eq_cutTo := fun _ => rfl

theorem Deletes.trans (first : draft.Deletes between middle stop)
    (within : middle ≤ draft.clusterCount) (least : start ≤ middle) (most : middle ≤ stop)
    (shrinks : between.after <:+ draft.after) (goesOn : result.after <:+ between.after)
    (second : between = draft.cutTo middle → draft.PartedAt middle →
      draft.Deletes result start middle) : draft.Deletes result start stop := by
  -- What is there in the end was there in between, since no deletion adds to it.
  have spared (kept : result.after = draft.after) : between.after = draft.after :=
    shrinks.eq_of_length_le (kept ▸ goesOn.length_le)
  have later (kept : between.after = draft.after) : draft.Deletes result start middle := by
    have cut := first.eq_cutTo kept
    rw [cut] at kept
    exact second cut ((after_cutTo_eq_iff within).mp kept)
  refine ⟨⟨fun kept count low high => ?_, fun everywhere => ?_⟩,
    fun kept => (later (spared kept)).eq_cutTo kept⟩
  · rcases Nat.lt_or_ge count middle with below | above
    · exact (later (spared kept)).spares_iff.mp kept count low below
    · exact first.spares_iff.mp (spared kept) count above high
  · have kept := first.spares_iff.mpr fun count low high =>
      everywhere count (Nat.le_trans least low) high
    exact (later kept).spares_iff.mpr fun count low high =>
      everywhere count low (Nat.lt_of_lt_of_le high most)

/-- How many clusters there are before the run that ends behind so many. -/
def runStart (draft : Draft) (blank : Bool) (count : Nat) : Nat :=
  (withoutRun blank ((Text.clusters draft.text).take count)).length

theorem runStart_le (draft : Draft) (blank : Bool) (count : Nat) :
    draft.runStart blank count ≤ count :=
  Nat.le_trans (List.rdropWhile_prefix _ _).length_le (List.length_take_le _ _)

theorem take_runStart (draft : Draft) (blank : Bool) (count : Nat) :
    (Text.clusters draft.text).take (draft.runStart blank count) =
      withoutRun blank ((Text.clusters draft.text).take count) := by
  have kept := (List.rdropWhile_prefix (Text.isAllBlank · == blank)
    ((Text.clusters draft.text).take count)).trans (List.take_prefix count _)
  exact (List.prefix_iff_eq_take.mp kept).symm

theorem isBlankAt_eq (inside : count < draft.clusterCount) :
    draft.isBlankAt count = Text.isAllBlank (Text.clusters draft.text)[count] := by
  rw [isBlankAt, List.getElem?_eq_getElem inside, Option.any_some]

theorem runStart_succ (blank : Bool) (inside : count < draft.clusterCount) :
    draft.runStart blank (count + 1) =
      if draft.isBlankAt count = blank then draft.runStart blank count else count + 1 := by
  have length : ((Text.clusters draft.text).take (count + 1)).length = count + 1 :=
    List.length_take_of_le inside
  rw [List.take_succ_eq_append_getElem inside] at length
  rw [runStart, List.take_succ_eq_append_getElem inside, withoutRun, List.rdropWhile_concat,
    isBlankAt_eq inside]
  simp only [beq_iff_eq]
  split
  · rfl
  · exact length

theorem after_deleteRun_suffix (within : draft.Within) (blank : Bool) :
    (draft.deleteRun blank).after <:+ draft.after := by
  fun_induction deleteRun blank draft with
  | case1 draft _ ih =>
      have shrinks : draft.deleteBack.after <:+ draft.after := by
        rw [deleteBack_eq]
        exact after_cutTo_suffix (Nat.le_trans (Nat.sub_le _ _) within)
      exact (ih (within_deleteBack within)).trans shrinks
  | case2 => exact List.suffix_refl _

theorem deleteRun_cutTo_succ (blank : Bool) (within : count < draft.clusterCount)
    (parted : draft.PartedAt (count + 1)) :
    (draft.cutTo (count + 1)).deleteRun blank =
      if draft.isBlankAt count = blank then (draft.cutTo count).deleteRun blank
      else draft.cutTo (count + 1) := by
  have last := isBlankAt_cutTo within parted (Nat.lt_succ_self count)
  have next : (draft.cutTo (count + 1)).deleteBack = draft.cutTo count := by
    rw [deleteBack_eq]
    exact cutTo_cutTo within parted (Nat.le_succ count)
  have positive : 0 < (draft.cutTo (count + 1)).cursor := Nat.succ_pos count
  have before : (draft.cutTo (count + 1)).cursor - 1 = count := rfl
  rw [deleteRun, before, last, next]
  simp only [positive, true_and]

theorem deletes_deleteRun (blank : Bool) (within : count ≤ draft.clusterCount)
    (parted : draft.PartedAt count) :
    draft.Deletes ((draft.cutTo count).deleteRun blank) (draft.runStart blank count) count := by
  -- As long as the text behind the cursor is spared, every draft on the way is a cut of one draft.
  induction count with
  | zero =>
      have stays : (draft.cutTo 0).deleteRun blank = draft.cutTo 0 := by
        rw [deleteRun, if_neg fun goesOn => Nat.lt_irrefl 0 goesOn.1]
      rw [stays, Nat.le_zero.mp (runStart_le draft blank 0)]
      exact deletes_self parted within
  | succ count ih =>
      have fewer : count ≤ draft.clusterCount := Nat.le_of_succ_le within
      rw [deleteRun_cutTo_succ blank within parted, runStart_succ blank within]
      by_cases goesOn : draft.isBlankAt count = blank
      · have rest := after_deleteRun_suffix (within_cutTo fewer) blank
        rw [if_pos goesOn, if_pos goesOn]
        exact (deletes_one fewer).trans fewer (runStart_le draft blank count) (Nat.le_succ count)
          (after_cutTo_suffix fewer) rest fun _ partedHere => ih fewer partedHere
      · rw [if_neg goesOn, if_neg goesOn]
        exact deletes_self parted within

theorem deletes_deleteWord (within : draft.Within) :
    draft.Deletes draft.deleteWord (draft.runStart false (draft.runStart true draft.cursor))
      draft.cursor := by
  have fewer : draft.runStart true draft.cursor ≤ draft.clusterCount :=
    Nat.le_trans (runStart_le draft true draft.cursor) within
  have blanks := deletes_deleteRun true within (partedAt_cursor draft)
  rw [cutTo_cursor] at blanks
  refine blanks.trans fewer (runStart_le draft false _) (runStart_le draft true _)
    (after_deleteRun_suffix within true)
    (after_deleteRun_suffix (within_deleteRun true within) false) fun cut parted => ?_
  rw [deleteWord, cut]
  exact deletes_deleteRun false fewer parted

theorem isBlankAt_deleteRun (blank : Bool) (draft : Draft)
    (rest : 0 < (draft.deleteRun blank).cursor) :
    (draft.deleteRun blank).isBlankAt ((draft.deleteRun blank).cursor - 1) = !blank := by
  fun_induction deleteRun blank draft with
  | case1 draft _ ih => exact ih rest
  | case2 draft stops =>
      have other := fun same => stops ⟨rest, same⟩
      exact Bool.eq_not_of_ne other

theorem isBlank_getLast?_before (within : draft.Within)
    (blank : 0 < draft.cursor → draft.isBlankAt (draft.cursor - 1) = true) {last : Char}
    (ends : draft.before.getLast? = some last) : Text.isBlank last = true := by
  obtain ⟨text, cursor⟩ := draft
  cases cursor with
  | zero => simp [before, upTo] at ends
  | succ count =>
      have found := blank (Nat.succ_pos count)
      rw [Nat.add_sub_cancel, isBlankAt_eq within] at found
      have visible := Text.ne_nil_of_mem_clusters (List.getElem_mem within)
      rw [before, upTo, List.take_succ_eq_append_getElem within, List.flatten_concat,
        List.getLast?_append_of_ne_nil _ visible] at ends
      exact List.all_eq_true.mp found last (List.mem_of_getLast? ends)

/-- Deleting a word leaves the text behind the cursor alone exactly if no cluster reaches over the
gap wherever it comes by, and then what it deletes are the blanks before the cursor and the word
before them.  Else it takes away a part of the text behind the cursor, too.  In both cases it stops
behind a blank or at the start. -/
theorem deleteWord_spares_after_iff (within : draft.cursor ≤ draft.clusterCount) :
    let kept := withoutRun false (withoutRun true (Text.clusters draft.before))
    (draft.deleteWord.after = draft.after ↔
      ∀ count, kept.length ≤ count → count < draft.cursor →
        Text.Parted (draft.upTo count) draft.after) ∧
    (draft.deleteWord.after = draft.after → draft.deleteWord.before = kept.flatten) ∧
    draft.deleteWord.after <:+ draft.after ∧
    ∀ last ∈ draft.deleteWord.before.getLast?, Text.isBlank last = true := by
  intro kept
  obtain ⟨spares, cut⟩ := deletes_deleteWord within
  have start : draft.runStart false (draft.runStart true draft.cursor) = kept.length := by
    rw [runStart, take_runStart, ← clusters_upTo]
    rfl
  have clusters : (Text.clusters draft.text).take kept.length = kept := by
    rw [← start, take_runStart, take_runStart, ← clusters_upTo]
    rfl
  rw [start] at spares cut
  have least : kept.length ≤ draft.clusterCount := by
    rw [← start]
    exact Nat.le_trans (Nat.le_trans (runStart_le _ _ _) (runStart_le _ _ _)) within
  have afterBlanks := within_deleteRun true within
  refine ⟨spares, fun spared => ?before, ?suffix, fun last ends => ?stops⟩
  case before =>
    have whole := cut spared
    rw [whole] at spared
    have parted := (after_cutTo_eq_iff least).mp spared
    rw [whole, before]
    exact (upTo_cutTo least parted (Nat.le_refl _)).trans (congrArg List.flatten clusters)
  case suffix =>
    exact (after_deleteRun_suffix afterBlanks false).trans (after_deleteRun_suffix within true)
  case stops =>
    exact isBlank_getLast?_before (within_deleteRun false afterBlanks)
      (isBlankAt_deleteRun false (draft.deleteRun true)) ends

/-- A word and the blanks behind it are all that goes before a regional indicator, as neither they
nor the blank before them join it. -/
theorem deleteWord_spares_after_indicator :
    let draft : Draft := ⟨"🇦 bc 🇧".toList, 5⟩
    draft.cursor ≤ draft.clusterCount ∧
      (∀ count < draft.cursor, 2 ≤ count → Text.Parted (draft.upTo count) draft.after) ∧
      draft.deleteWord.before = "🇦 ".toList ∧ draft.deleteWord.after = "🇧".toList := by
  intro draft
  have within : draft.cursor ≤ draft.clusterCount := by decide +kernel
  have kept : withoutRun false (withoutRun true (Text.clusters draft.before)) = [['🇦'], [' ']] := by
    decide +kernel
  have after : draft.after = "🇧".toList := by decide +kernel
  have parted : ∀ count < draft.cursor, 2 ≤ count →
      Text.Parted (draft.upTo count) draft.after := by decide +kernel
  obtain ⟨spares, before, _⟩ := deleteWord_spares_after_iff within
  rw [kept] at spares before
  have spared := spares.mpr fun count least below => parted count below least
  exact ⟨within, parted, before spared, spared.trans after⟩

/-- Between two regional indicators a word goes with the one behind it: the first deletion makes a
flag of the two, and the second deletes the flag. -/
theorem deleteWord_takes_flag :
    let draft : Draft := ⟨['🇦', 'x', '🇧'], 2⟩
    draft.cursor ≤ draft.clusterCount ∧ draft.after = ['🇧'] ∧
      withoutRun false (withoutRun true (Text.clusters draft.before)) = [] ∧
      draft.deleteWord.before = [] ∧ draft.deleteWord.after ≠ draft.after := by
  decide +kernel

end GraphPrograms.Draft
