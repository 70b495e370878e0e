import GraphPrograms.Proofs.Draft.Entering
import GraphPrograms.Proofs.Review.Step

/-!
Drafts edited by the bytes of their text.

The edits of a draft are said in clusters, but they are made in bytes: the cursor is turned into a
position, and the text is cut there.  Here the edits are written that way, with a failure wherever a
position could not be used.  None ever fails, and they come to the same drafts
(`performBytes?_eq`).  The cursor keeps to the clusters there are (`within_perform`), although a
deletion can make the clusters beside it one.
-/

namespace GraphPrograms

/-- All that is done to a draft, by keys or when the session moves. -/
inductive DraftOperation where
  | edit (edit : DraftEdit)
  | set (text : Text)
  | take
deriving DecidableEq, Repr

namespace Text

/-- Where the pieces of a text begin if the first one begins at a position. -/
def startsFrom : Nat → List Text → List Nat
  | _, [] => []
  | position, piece :: rest => position :: startsFrom (position + byteSize piece) rest

theorem getElem?_startsFrom (position : Nat) (pieces : List Text) (index : Nat) :
    (startsFrom position pieces)[index]? =
      if index < pieces.length then some (position + byteSize (pieces.take index).flatten)
      else none := by
  induction pieces generalizing position index with
  | nil => rfl
  | cons piece rest ih =>
      cases index with
      | zero => simp [startsFrom]
      | succ index =>
          rw [startsFrom, List.getElem?_cons_succ, ih]
          simp [Nat.add_assoc]

end Text

namespace Draft

variable {draft : Draft} {left right : Text} {first second : Nat}

def perform (draft : Draft) : DraftOperation → Draft
  | .edit edit => draft.apply edit
  | .set text => ofText text
  | .take => draft.clear

/-- Where the cluster at an index begins, or where the text ends if there is none. -/
def byteAt (draft : Draft) (index : Nat) : Nat :=
  ((Text.startsFrom 0 (Text.clusters draft.text))[index]?).getD (Text.byteSize draft.text)

section Bytes

def insertCharBytes? (draft : Draft) (character : Char) : Option Draft :=
  if isLineBreak character then some draft
  else
    (Text.insertAtByte? draft.text (draft.byteAt draft.cursor) [character]).map fun text =>
      { draft with text := text }.right

def insertBytes? (draft : Draft) (text : Text) : Option Draft :=
  let line := text.filter (!isLineBreak ·)
  if line.isEmpty then some draft
  else
    (Text.insertAtByte? draft.text (draft.byteAt draft.cursor) line).map fun text =>
      { draft with text := text }.moveTo (draft.cursor + (Text.clusters line).length)

def deleteBackBytes? (draft : Draft) : Option Draft :=
  if draft.cursor = 0 then some draft
  else
    (Text.removeBytes? draft.text (draft.byteAt (draft.cursor - 1))
      (draft.byteAt draft.cursor)).map fun text => { draft with text := text }.left

def deleteForwardBytes? (draft : Draft) : Option Draft :=
  if draft.clusterCount ≤ draft.cursor then some draft
  else
    (Text.removeBytes? draft.text (draft.byteAt draft.cursor)
      (draft.byteAt (draft.cursor + 1))).map fun text => { draft with text := text }

def deleteRunBytes? (blank : Bool) : Nat → Text → Option Draft
  | 0, text => some ⟨text, 0⟩
  | cursor + 1, text =>
      let draft : Draft := ⟨text, cursor + 1⟩
      if draft.isBlankAt cursor = blank then
        draft.deleteBackBytes?.bind fun next => deleteRunBytes? blank cursor next.text
      else some draft

def deleteWordBytes? (draft : Draft) : Option Draft :=
  (deleteRunBytes? true draft.cursor draft.text).bind fun next =>
    deleteRunBytes? false next.cursor next.text

def applyBytes? (draft : Draft) : DraftEdit → Option Draft
  | .insertChar character => draft.insertCharBytes? character
  | .insert text => draft.insertBytes? text
  | .deleteBack => draft.deleteBackBytes?
  | .deleteForward => draft.deleteForwardBytes?
  | .deleteWord => draft.deleteWordBytes?
  | .clear => some draft.clear
  | .left => some draft.left
  | .right => some draft.right
  | .home => some draft.home
  | .toEnd => some draft.toEnd

def performBytes? (draft : Draft) : DraftOperation → Option Draft
  | .edit edit => draft.applyBytes? edit
  | .set text => some (ofText text)
  | .take => some draft.clear

end Bytes

theorem byteAt_eq (draft : Draft) (index : Nat) :
    draft.byteAt index = Text.byteSize (draft.upTo index) := by
  rw [byteAt, Text.getElem?_startsFrom, upTo]
  split
  · rw [Option.getD_some, Nat.zero_add]
  · rename_i outside
    rw [Option.getD_none, List.take_of_length_le (Nat.le_of_not_lt outside), Text.flatten_clusters]

theorem insertAtByte?_cursor (draft : Draft) (line : Text) :
    Text.insertAtByte? draft.text (draft.byteAt draft.cursor) line =
      some (draft.before ++ line ++ draft.after) := by
  have parts := Text.insertAtByte?_append draft.before draft.after line
  rw [before_append_after] at parts
  rw [byteAt_eq]
  exact parts

/-- The clusters between two indexes can be removed, and all others stay. -/
theorem removeBytes?_between (draft : Draft) (inOrder : first ≤ second) :
    Text.removeBytes? draft.text (draft.byteAt first) (draft.byteAt second) =
      some (draft.upTo first ++ draft.beyond second) := by
  obtain ⟨middle, later⟩ : ∃ middle, draft.upTo first ++ middle = draft.upTo second := by
    obtain ⟨rest, whole⟩ := List.take_prefix_take_left (l := Text.clusters draft.text) inOrder
    refine ⟨rest.flatten, ?_⟩
    rw [upTo, upTo, ← whole, List.flatten_append]
  have removed := Text.removeBytes?_append (draft.upTo first) middle (draft.beyond second)
  rw [later, upTo_append_beyond] at removed
  rw [byteAt_eq, byteAt_eq]
  exact removed

theorem deleteBackBytes?_eq (draft : Draft) : draft.deleteBackBytes? = some draft.deleteBack := by
  unfold deleteBackBytes? deleteBack
  split
  · rfl
  · rw [removeBytes?_between draft (Nat.sub_le _ _), Option.map_some]
    rfl

theorem deleteRunBytes?_eq (blank : Bool) (draft : Draft) :
    deleteRunBytes? blank draft.cursor draft.text = some (draft.deleteRun blank) := by
  obtain ⟨text, cursor⟩ := draft
  induction cursor generalizing text with
  | zero => rw [deleteRunBytes?, deleteRun, if_neg (by simp)]
  | succ cursor ih =>
      rw [deleteRunBytes?, deleteRun]
      by_cases goesOn : (Draft.mk text (cursor + 1)).isBlankAt cursor = blank
      · have next : (Draft.mk text (cursor + 1)).deleteBack =
            ⟨(Draft.mk text (cursor + 1)).deleteBack.text, cursor⟩ := rfl
        rw [if_pos goesOn, if_pos ⟨Nat.succ_pos cursor, goesOn⟩, deleteBackBytes?_eq,
          Option.bind_some, ih, ← next]
      · rw [if_neg goesOn, if_neg fun both => goesOn both.2]

/-- Every position that an edit uses is usable, and the edit does what it does to the clusters. -/
theorem performBytes?_eq (draft : Draft) (operation : DraftOperation) :
    draft.performBytes? operation = some (draft.perform operation) := by
  cases operation with
  | set | take => rfl
  | edit edit =>
      cases edit with
      | insertChar character =>
          change draft.insertCharBytes? character = some (draft.insertChar character)
          rw [insertCharBytes?, insertChar, insertAtByte?_cursor]
          split <;> rfl
      | insert text =>
          change draft.insertBytes? text = some (draft.insert text)
          simp only [insertBytes?, insert, insertAtByte?_cursor]
          split <;> rfl
      | deleteBack => exact deleteBackBytes?_eq draft
      | deleteForward =>
          change draft.deleteForwardBytes? = some draft.deleteForward
          rw [deleteForwardBytes?, deleteForward, removeBytes?_between draft (Nat.le_succ _)]
          by_cases inside : draft.cursor < draft.clusterCount
          · rw [if_neg (Nat.not_le_of_lt inside), if_pos inside]
            rfl
          · rw [if_pos (Nat.le_of_not_lt inside), if_neg inside]
      | deleteWord =>
          change draft.deleteWordBytes? = some draft.deleteWord
          rw [deleteWordBytes?, deleteRunBytes?_eq, Option.bind_some, deleteRunBytes?_eq]
          rfl
      | clear | left | right | home | toEnd => rfl

/-- A cursor that stands behind clusters of its text. -/
def Within (draft : Draft) : Prop := draft.cursor ≤ draft.clusterCount

theorem within_moveTo (draft : Draft) (cursor : Nat) : (draft.moveTo cursor).Within :=
  Nat.min_le_right _ _

theorem within_insert (within : draft.Within) (text : Text) : (draft.insert text).Within := by
  simp only [insert]
  split
  · exact within
  · exact within_moveTo _ _

/-- What is put behind the first clusters of a text leaves as many. -/
theorem le_length_clusters_upTo_append {count : Nat} (enough : count ≤ draft.clusterCount)
    (right : Text) : count ≤ (Text.clusters (draft.upTo count ++ right)).length := by
  have least := Text.length_clusters_le_append (draft.upTo count) right
  rwa [length_clusters_upTo enough] at least

theorem within_deleteBack (within : draft.Within) : draft.deleteBack.Within := by
  unfold deleteBack
  split
  · exact within
  · exact le_length_clusters_upTo_append (Nat.le_trans (Nat.sub_le _ _) within) draft.after

-- Three clusters are left as one: a vowel joins the consonant that it comes to stand behind.
example : (Draft.mk ['ᄀ', 'x', 'ᅡ'] 2).clusterCount = 3 ∧
    (Draft.mk ['ᄀ', 'x', 'ᅡ'] 2).deleteBack.clusterCount = 1 := by decide +kernel

theorem within_deleteForward (within : draft.Within) : draft.deleteForward.Within := by
  unfold deleteForward
  split
  · exact le_length_clusters_upTo_append within (draft.beyond (draft.cursor + 1))
  · exact within

theorem within_deleteRun (blank : Bool) (within : draft.Within) :
    (draft.deleteRun blank).Within := by
  fun_induction deleteRun blank draft with
  | case1 draft _ ih => exact ih (within_deleteBack within)
  | case2 => exact within

theorem within_apply (within : draft.Within) (edit : DraftEdit) : (draft.apply edit).Within := by
  cases edit with
  | insertChar character =>
      rw [apply, insertChar_eq_insert]
      exact within_insert within [character]
  | insert text => exact within_insert within text
  | deleteBack => exact within_deleteBack within
  | deleteForward => exact within_deleteForward within
  | deleteWord => exact within_deleteRun false (within_deleteRun true within)
  | left => exact Nat.le_trans (Nat.sub_le _ _) within
  | right => exact within_moveTo draft _
  | clear | home => exact Nat.zero_le _
  | toEnd => exact Nat.le_refl _

theorem within_perform (within : draft.Within) (operation : DraftOperation) :
    (draft.perform operation).Within := by
  cases operation with
  | edit edit => exact within_apply within edit
  | set text => exact Nat.le_refl _
  | take => exact Nat.zero_le _

theorem within_run (within : draft.Within) (operations : List DraftOperation) :
    (operations.foldl perform draft).Within := by
  induction operations generalizing draft with
  | nil => exact within
  | cons operation rest ih => exact ih (within_perform within operation)

theorem runBytes?_eq (draft : Draft) (operations : List DraftOperation) :
    operations.foldlM performBytes? draft = some (operations.foldl perform draft) := by
  induction operations generalizing draft with
  | nil => rfl
  | cons operation rest ih =>
      rw [List.foldlM_cons, performBytes?_eq, List.foldl_cons, Option.bind_eq_bind,
        Option.bind_some]
      exact ih _

/-- From an empty draft on, whatever is done to it, the cursor stands behind clusters of the text,
so its position lies between two of them, and no edit uses a position that it must not use. -/
theorem cursor_keeps_to_clusters (operations : List DraftOperation) :
    let draft := operations.foldl perform ({} : Draft)
    draft.cursor ≤ draft.clusterCount ∧
    (∃ left right, Text.clusters draft.text = left ++ right ∧ left.length = draft.cursor ∧
      draft.byteAt draft.cursor = Text.byteSize left.flatten) ∧
    draft.byteIndex = draft.byteAt draft.cursor ∧
    Text.splitAtByte? draft.text draft.byteIndex = some (draft.before, draft.after) ∧
    operations.foldlM performBytes? ({} : Draft) = some draft := by
  intro draft
  have within : draft.Within := within_run (Nat.zero_le _) operations
  refine ⟨within, ⟨(Text.clusters draft.text).take draft.cursor,
    (Text.clusters draft.text).drop draft.cursor, (List.take_append_drop _ _).symm,
    List.length_take_of_le within, byteAt_eq draft draft.cursor⟩,
    (byteAt_eq draft draft.cursor).symm, ?slice, runBytes?_eq {} operations⟩
  case slice =>
    have parts := Text.splitAtByte?_append draft.before draft.after
    rw [before_append_after] at parts
    exact parts

end Draft

end GraphPrograms
