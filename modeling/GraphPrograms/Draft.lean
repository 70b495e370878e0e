import GraphPrograms.Text.Bytes
import GraphPrograms.Text.Cluster

/-!
The draft of a color: one line of text with a cursor between its grapheme clusters.

The cursor is the number of clusters before it.  `before` and `after` are the two parts of the
text, and every edit is said through them.
-/

namespace GraphPrograms

structure Draft where
  text : Text := []
  cursor : Nat := 0
deriving DecidableEq, Repr

namespace Draft

def clusterCount (draft : Draft) : Nat := (Text.clusters draft.text).length

/-- The text of the first `count` clusters. -/
def upTo (draft : Draft) (count : Nat) : Text := ((Text.clusters draft.text).take count).flatten

/-- The text behind the first `count` clusters. -/
def beyond (draft : Draft) (count : Nat) : Text := ((Text.clusters draft.text).drop count).flatten

/-- The text before the cursor. -/
def before (draft : Draft) : Text := draft.upTo draft.cursor

/-- The text behind the cursor. -/
def after (draft : Draft) : Text := draft.beyond draft.cursor

theorem upTo_append_beyond (draft : Draft) (count : Nat) :
    draft.upTo count ++ draft.beyond count = draft.text := by
  rw [upTo, beyond, ← List.flatten_append, List.take_append_drop, Text.flatten_clusters]

/-- The two parts of a draft are its text. -/
@[simp] theorem before_append_after (draft : Draft) : draft.before ++ draft.after = draft.text :=
  upTo_append_beyond draft draft.cursor

/-- The cursor's place in the bytes of the text. -/
def byteIndex (draft : Draft) : Nat := Text.byteSize draft.before

/-- Moves the cursor to a cluster, or to the end if there are fewer. -/
def moveTo (draft : Draft) (cursor : Nat) : Draft :=
  { draft with cursor := min cursor draft.clusterCount }

def left (draft : Draft) : Draft := { draft with cursor := draft.cursor - 1 }

def right (draft : Draft) : Draft := draft.moveTo (draft.cursor + 1)

def home (draft : Draft) : Draft := { draft with cursor := 0 }

def toEnd (draft : Draft) : Draft := { draft with cursor := draft.clusterCount }

/-- The characters that a draft does not take, as it is one line. -/
def isLineBreak (character : Char) : Bool := character == '\n' || character == '\r'

/-- Types one character at the cursor. -/
def insertChar (draft : Draft) (character : Char) : Draft :=
  if isLineBreak character then draft
  else { draft with text := draft.before ++ [character] ++ draft.after }.right

/-- Types the characters of a text one after the other. -/
def type (draft : Draft) (text : Text) : Draft := text.foldl insertChar draft

/-- Pastes a text at the cursor, without its line breaks. -/
def insert (draft : Draft) (text : Text) : Draft :=
  let line := text.filter (!isLineBreak ·)
  if line.isEmpty then draft
  else
    { draft with text := draft.before ++ line ++ draft.after }.moveTo
      (draft.cursor + (Text.clusters line).length)

/-- Deletes the cluster before the cursor. -/
def deleteBack (draft : Draft) : Draft :=
  if draft.cursor = 0 then draft
  else ⟨draft.upTo (draft.cursor - 1) ++ draft.after, draft.cursor - 1⟩

/-- Deletes the cluster behind the cursor. -/
def deleteForward (draft : Draft) : Draft :=
  if draft.cursor < draft.clusterCount then
    { draft with text := draft.before ++ draft.beyond (draft.cursor + 1) }
  else draft

/-- Whether the cluster at an index is there and blank. -/
def isBlankAt (draft : Draft) (index : Nat) : Bool :=
  ((Text.clusters draft.text)[index]?).any Text.isAllBlank

theorem cursor_deleteBack (draft : Draft) : draft.deleteBack.cursor = draft.cursor - 1 := by
  unfold deleteBack
  split
  · omega
  · rfl

/-- Deletes clusters before the cursor as long as they are blank, or as long as they are not. -/
def deleteRun (blank : Bool) (draft : Draft) : Draft :=
  if 0 < draft.cursor ∧ draft.isBlankAt (draft.cursor - 1) = blank then
    deleteRun blank draft.deleteBack
  else draft
termination_by draft.cursor
decreasing_by
  rw [cursor_deleteBack]
  omega

/-- Deletes the word before the cursor together with the blanks behind it. -/
def deleteWord (draft : Draft) : Draft := (draft.deleteRun true).deleteRun false

def clear (_ : Draft) : Draft := {}

/-- A draft of a given text with the cursor at its end. -/
def ofText (text : Text) : Draft := ({ text := text } : Draft).toEnd

end Draft

end GraphPrograms
