import GraphPrograms.Proofs.Draft.Deleting
import GraphPrograms.Proofs.Text.Controls
import GraphPrograms.Review.Picture
import Mathlib.Tactic.Conv

/-!
Which part of the draft its box shows, and where the cursor stands in it.

The box leaves out as few clusters as bring the cursor into its room (`exists_hides`).  If the
columns of the draft are those of its clusters one by one, these clusters are before the cursor, so
that it stands between the first and the last column (`scrolling_keeps_cursor_in_sight`).  It stands
behind the columns of all clusters that are shown before it, and these include the control
characters, which are not drawn (`cursor_stands_behind_iff`).
-/

namespace GraphPrograms

/-- A draft of which any first clusters are as wide together as they are one by one. -/
def Draft.Additive (draft : Draft) : Prop :=
  ∀ count ≤ draft.clusterCount,
    Text.width (draft.upTo count) = Text.columns ((Text.clusters draft.text).take count)

instance (draft : Draft) : Decidable draft.Additive := inferInstanceAs (Decidable (∀ _ ≤ _, _ = _))

theorem Draft.Additive.width_upTo {draft : Draft} (adds : draft.Additive) (count : Nat) :
    Text.width (draft.upTo count) = Text.columns ((Text.clusters draft.text).take count) := by
  have least := adds (min count draft.clusterCount) (Nat.min_le_right _ _)
  rwa [Draft.upTo, clusterCount, ← List.take_eq_take_min] at least

theorem Text.columns_take_le {fewer count : Nat} (less : fewer ≤ count) (texts : List Text) :
    columns (texts.take fewer) ≤ columns (texts.take count) := by
  rw [← Nat.min_eq_left less, ← List.take_take]
  conv_rhs => rw [← List.take_append_drop fewer (texts.take count), columns_append]
  exact Nat.le_add_right _ _

namespace ColorBox

variable {box : ColorBox} {count : Nat}

/-- The column behind the prompt, which is the first one for the draft. -/
def firstColumn (box : ColorBox) : Nat := box.area.left + 2 + Text.width box.lead

theorem exists_leaveOut (target gone : Nat) (clusters : List Text) :
    ∃ count ≤ clusters.length,
      leaveOut target gone clusters =
        (gone + Text.columns (clusters.take count), clusters.drop count) ∧
      (∀ fewer < count, gone + Text.columns (clusters.take fewer) < target) ∧
      (count < clusters.length → target ≤ gone + Text.columns (clusters.take count)) := by
  induction clusters generalizing gone with
  | nil => exact ⟨0, Nat.le_refl _, rfl, by simp, by simp⟩
  | cons cluster rest ih =>
      by_cases enough : target ≤ gone
      · refine ⟨0, Nat.zero_le _, ?_, by simp, fun _ => Nat.le_add_right_of_le enough⟩
        rw [leaveOut, if_pos enough]
        rfl
      · obtain ⟨count, within, left, least, most⟩ := ih (gone + Text.width cluster)
        refine ⟨count + 1, Nat.succ_le_succ within, ?_, fun fewer less => ?_, fun more => ?_⟩
        · rw [leaveOut, if_neg enough, left, List.take_succ_cons, Text.columns_cons,
            List.drop_succ_cons, Nat.add_assoc]
        · cases fewer with
          | zero => simpa using enough
          | succ fewer =>
              rw [List.take_succ_cons, Text.columns_cons, ← Nat.add_assoc]
              exact least fewer (Nat.lt_of_succ_lt_succ less)
        · rw [List.take_succ_cons, Text.columns_cons, ← Nat.add_assoc]
          exact most (Nat.lt_of_succ_lt_succ more)

theorem cursorColumns_eq (adds : box.draft.Additive) : box.cursorColumns =
    Text.columns ((Text.clusters box.draft.text).take box.draft.cursor) :=
  adds.width_upTo box.draft.cursor

/-- A box that leaves out as many clusters of its draft as it has to, and no more. -/
structure Hides (box : ColorBox) (count : Nat) : Prop where
  within : count ≤ box.draft.clusterCount
  scrolled : box.scrolled =
    (Text.columns ((Text.clusters box.draft.text).take count), box.draft.beyond count)
  least : ∀ fewer < count,
    Text.columns ((Text.clusters box.draft.text).take fewer) + box.room ≤ box.cursorColumns
  enough : count < box.draft.clusterCount →
    box.cursorColumns < Text.columns ((Text.clusters box.draft.text).take count) + box.room

theorem exists_hides (visible : 0 < box.room) : ∃ count, box.Hides count := by
  by_cases fits : box.cursorColumns < box.room
  · refine ⟨0, Nat.zero_le _, ?_, by simp, fun _ => Nat.lt_add_left _ fits⟩
    rw [scrolled, if_neg (by omega), Draft.beyond, List.drop_zero, Text.flatten_clusters]
    rfl
  · obtain ⟨count, within, left, least, most⟩ :=
      exists_leaveOut (box.cursorColumns - box.room + 1) 0 (Text.clusters box.draft.text)
    refine ⟨count, within, ?_, fun fewer less => ?_, fun more => ?_⟩
    · rw [scrolled, if_pos ⟨visible, by omega⟩, left, Nat.zero_add]
      rfl
    · have few := least fewer less
      omega
    · have many := most more
      omega

namespace Hides

variable (hides : box.Hides count) (adds : box.draft.Additive) (visible : 0 < box.room)

include hides adds visible

theorem le_cursor : count ≤ box.draft.cursor := by
  by_contra behind
  have few := hides.least box.draft.cursor (by omega)
  rw [← cursorColumns_eq adds] at few
  omega

theorem columns_le :
    Text.columns ((Text.clusters box.draft.text).take count) ≤ box.cursorColumns := by
  rw [cursorColumns_eq adds]
  exact Text.columns_take_le (hides.le_cursor adds visible) _

theorem lt_columns_add : box.cursorColumns <
    Text.columns ((Text.clusters box.draft.text).take count) + box.room := by
  by_cases more : count < box.draft.clusterCount
  · exact hides.enough more
  · -- All clusters are left out, so there is nothing behind the cursor.
    have behind := hides.le_cursor adds visible
    rw [cursorColumns_eq adds, List.take_of_length_le (Nat.le_trans (Nat.not_lt.mp more) behind),
      List.take_of_length_le (Nat.not_lt.mp more)]
    exact Nat.lt_add_of_pos_right visible

theorem cursor_eq (fits : box.firstColumn + box.cursorColumns ≤ lastColumn) :
    box.cursor.1 = box.firstColumn +
      (box.cursorColumns - Text.columns ((Text.clusters box.draft.text).take count)) := by
  have before := hides.columns_le adds visible
  have column : box.cursor.1 = min lastColumn (min lastColumn box.firstColumn +
      box.cursorColumns % (lastColumn + 1)) - box.scrolled.1 % (lastColumn + 1) := rfl
  have gone := congrArg Prod.fst hides.scrolled
  -- No column is so large that counting in 16 bits would change it.
  rw [column, gone, Nat.mod_eq_of_lt (by omega), Nat.mod_eq_of_lt (by omega)]
  omega

end Hides

/-- If columns add up and can be counted, the cursor is in sight in every box with a column for the
draft, and what is shown begins with a cluster at or before the cursor. -/
theorem scrolling_keeps_cursor_in_sight (adds : ∀ count ≤ box.draft.clusterCount,
      Text.width (box.draft.upTo count) =
        (((Text.clusters box.draft.text).take count).map Text.width).sum)
    (visible : 1 ≤ box.area.width - (4 + Text.width box.lead))
    (fits : box.area.left + 2 + Text.width box.lead + Text.width box.draft.before ≤ 65535) :
    box.area.left + 2 + Text.width box.lead ≤ box.cursor.1 ∧
      box.cursor.1 ≤ box.area.left + box.area.width - 3 ∧
      (∃ count ≤ box.draft.cursor, box.draft.upTo count ++ box.shown = box.draft.text) ∧
      (Text.width box.draft.before < box.area.width - (4 + Text.width box.lead) →
        box.shown = box.draft.text) := by
  obtain ⟨count, hides⟩ := exists_hides visible
  have column := hides.cursor_eq adds visible fits
  have reached := hides.lt_columns_add adds visible
  have first : box.firstColumn = box.area.left + 2 + Text.width box.lead := rfl
  have room : box.room = box.area.width - (4 + Text.width box.lead) := rfl
  refine ⟨by omega, by omega, ⟨count, hides.le_cursor adds visible, ?_⟩, fun short => ?_⟩
  · rw [shown, hides.scrolled, Draft.upTo_append_beyond]
  · have still : ¬ (0 < box.room ∧ box.room ≤ box.cursorColumns) := by
      rw [cursorColumns]
      omega
    rw [shown, scrolled, if_neg still]

/-- A box of five columns for a draft of wide letters, the cursor behind the fourth of them: two
are left out, one more than columns that are needed. -/
theorem scrolling_keeps_cursor_in_sight_wide :
    let box : ColorBox := ⟨⟨1, 8, 11, 3⟩, ['>'], ⟨"表示色名x".toList, 4⟩⟩
    Text.width box.draft.before = 8 ∧ box.shown = "色名x".toList ∧
      3 + 2 ≤ box.cursor.1 ∧ box.cursor.1 ≤ 9 ∧
      ∃ count ≤ 4, box.draft.upTo count ++ box.shown = box.draft.text := by
  intro box
  have columns : Text.width box.draft.before = 8 := by decide +kernel
  obtain ⟨first, last, suffix, _⟩ := @scrolling_keeps_cursor_in_sight box
    (by decide +kernel) (by decide +kernel) (by decide +kernel)
  have lead : Text.width box.lead = 2 := by decide +kernel
  rw [lead] at first
  exact ⟨columns, by decide +kernel, first, last, suffix⟩

/-- The shown text without what stands behind the cursor. -/
def shownBefore (box : ColorBox) : Text :=
  box.shown.take (box.shown.length - box.draft.after.length)

theorem Hides.clusters_shownBefore (hides : box.Hides count)
    (before : count ≤ box.draft.cursor) :
    Text.clusters box.shownBefore = (Text.clusters box.draft.before).drop count := by
  have within : count ≤ ((Text.clusters box.draft.text).take box.draft.cursor).length := by
    have most := hides.within
    rw [Draft.clusterCount] at most
    rw [List.length_take]
    omega
  have parts : box.shown =
      ((Text.clusters box.draft.before).drop count).flatten ++ box.draft.after := by
    rw [shown, hides.scrolled, Draft.beyond, Draft.before, Draft.clusters_upTo, Draft.after,
      Draft.beyond, ← List.flatten_append, ← List.drop_append_of_le_length within,
      List.take_append_drop]
  rw [shownBefore, parts, List.length_append, Nat.add_sub_cancel, List.take_left]
  exact Text.clusters_flatten_drop _ _

/-- The cursor stands as many columns behind the prompt as the clusters shown before it have. -/
theorem Hides.cursor_eq_shownBefore (hides : box.Hides count) (adds : box.draft.Additive)
    (visible : 0 < box.room) (fits : box.firstColumn + box.cursorColumns ≤ lastColumn) :
    box.cursor.1 = box.firstColumn + Text.columns (Text.clusters box.shownBefore) := by
  have reached := hides.le_cursor adds visible
  have before : Text.clusters box.draft.before =
      (Text.clusters box.draft.text).take box.draft.cursor := Draft.clusters_upTo _ _
  have hidden : (Text.clusters box.draft.before).take count =
      (Text.clusters box.draft.text).take count := by
    rw [before, List.take_take, Nat.min_eq_left reached]
  have parts := congrArg Text.columns
    (List.take_append_drop count (Text.clusters box.draft.before))
  rw [Text.columns_append, ← hides.clusters_shownBefore reached, hidden, before,
    ← cursorColumns_eq adds] at parts
  rw [hides.cursor_eq adds visible fits, ← parts, Nat.add_sub_cancel_left]

end ColorBox

namespace Review

variable {review : Review} {current : CurrentEquation} {width height : Nat}

/-- The box for the color on a screen. -/
def boxOn (review : Review) (width height : Nat) : ColorBox :=
  let inner := (Area.mk 0 0 width height).inset
  review.colorBox ((inner.rows 1 (inner.height - 3)).rows 8 3)

theorem cursor_draw (active : review.session.view.current = some current) (width height : Nat) :
    (review.draw width height).cursor = (review.boxOn width height).cursor := by
  simp only [draw, active]
  rfl

/-- Where columns add up and can be counted, the cursor stands as many columns behind the prompt as
the clusters shown before it have.  So it is exactly behind the text that is drawn there if no
control character is among them, and otherwise as many columns further on as those would take. -/
theorem cursor_stands_behind_iff (active : review.session.view.current = some current)
    (visible : 0 < (review.boxOn width height).room) (adds : review.draft.Additive)
    (fits : (review.boxOn width height).firstColumn + Text.width review.draft.before ≤ 65535)
    (drawn : Text.width (Text.printable (review.boxOn width height).shownBefore) =
      Text.columns ((Text.clusters (review.boxOn width height).shownBefore).filter
        (!·.any Text.isControl))) :
    let box := review.boxOn width height
    (review.draw width height).cursor.1 =
        box.firstColumn + Text.columns (Text.clusters box.shownBefore) ∧
      ((review.draw width height).cursor.1 =
          box.firstColumn + Text.width (Text.printable box.shownBefore) ↔
        ∀ character ∈ box.shownBefore, Text.isControl character = false) := by
  intro box
  obtain ⟨count, hides⟩ := ColorBox.exists_hides visible
  have column : (review.draw width height).cursor.1 =
      box.firstColumn + Text.columns (Text.clusters box.shownBefore) := by
    rw [cursor_draw active]
    exact hides.cursor_eq_shownBefore adds visible fits
  refine ⟨column, ?_⟩
  rw [column, drawn, Nat.add_left_cancel_iff, eq_comm, Text.columns_filter_eq_iff]
  · -- The characters of the text are those of its clusters.
    conv_rhs => rw [← Text.flatten_clusters box.shownBefore]
    simp only [List.mem_flatten, Bool.not_eq_true', List.any_eq_false, Bool.not_eq_true]
    exact ⟨fun plain character ⟨cluster, member, inside⟩ => plain cluster member character inside,
      fun plain cluster member character inside => plain character ⟨cluster, member, inside⟩⟩
  · intro cluster member control
    exact Text.width_pos_of_all_isControl (Text.ne_nil_of_mem_clusters member)
      (Text.all_isControl_of_any member (by simpa using control))

/-- In a narrow box the tab before the letters is left out, and does no harm. -/
theorem cursor_stands_behind_tab_left_out :
    let review : Review :=
      { session := .ofEquations [⟨['x'], []⟩], draft := .ofText "\tabcdefg".toList }
    let box := review.boxOn 14 20
    box.shownBefore = "cdefg".toList ∧
      (review.draw 14 20).cursor.1 =
        box.firstColumn + Text.width (Text.printable box.shownBefore) := by
  intro review box
  have shown : box.shownBefore = "cdefg".toList := by decide +kernel
  have active : review.session.view.current = some (review.session.currentView ⟨['x'], []⟩) := rfl
  refine ⟨shown, (cursor_stands_behind_iff active (by decide +kernel) (by decide +kernel)
    (by decide +kernel) (by decide +kernel)).2.mpr fun character inside => ?_⟩
  have plain : "cdefg".toList.all (!Text.isControl ·) = true := by decide
  change character ∈ box.shownBefore at inside
  rw [shown] at inside
  simpa using List.all_eq_true.mp plain character inside

/-- A tab that is pasted is a column for the cursor and none on the screen. -/
theorem cursor_strays_behind_tab :
    let review : Review :=
      { session := .ofEquations [⟨['x'], []⟩], draft := ({} : Draft).insert "a\tb".toList }
    let box := review.boxOn 40 20
    review.session.view.current ≠ none ∧ 0 < box.room ∧ box.shownBefore = "a\tb".toList ∧
      (review.draw 40 20).cursor.1 - box.firstColumn = 3 ∧
      Text.width (Text.printable box.shownBefore) = 2 := by
  decide +kernel

end Review

end GraphPrograms
