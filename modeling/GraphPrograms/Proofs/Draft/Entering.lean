import GraphPrograms.Draft
import GraphPrograms.Proofs.Text.Clusters

/-!
Where the cursor stands after something is entered.

The cursor moves on by as many clusters as the entered text has alone.  That is right behind the
text if it adds as many to what is before it, or if nothing begins behind it
(`insert_standsBehind_iff`).  A mark that joins the cluster before it adds none, and then the cursor
passes over a cluster of the old text.  At the end of a draft there is nothing to pass over, and
typing is pasting there.
-/

namespace GraphPrograms.Draft

variable {draft : Draft} {left right line : Text}

/-- The cursor stands at the first boundary between clusters that is not before a position. -/
structure StandsBehind (draft : Draft) (position : Nat) : Prop where
  cursor_le : draft.cursor ≤ draft.clusterCount
  behind : position ≤ draft.before.length
  first : ∀ count < draft.cursor, (draft.upTo count).length < position

theorem standsBehind_iff (text : draft.text = left ++ right) :
    draft.StandsBehind left.length ↔ draft.cursor = (Text.clusters left).length := by
  have boundary : ∀ count, (draft.upTo count).length < left.length ↔
      count < (Text.clusters left).length := fun count => by
    rw [upTo, text, Text.length_flatten_take_lt_iff]
  constructor
  · intro stands
    have enough : ¬ draft.before.length < left.length := Nat.not_lt_of_le stands.behind
    rw [before, boundary] at enough
    cases cursor : draft.cursor with
    | zero => omega
    | succ count =>
        have early := (boundary count).mp (stands.first count (by omega))
        omega
  · intro cursor
    refine ⟨?_, ?_, fun count earlier => (boundary count).mpr (cursor ▸ earlier)⟩
    · rw [cursor, clusterCount, text]
      exact Text.length_clusters_le_append left right
    · refine Nat.le_of_not_lt fun short => ?_
      have early := (boundary draft.cursor).mp short
      omega

theorem clusters_upTo (draft : Draft) (count : Nat) :
    Text.clusters (draft.upTo count) = (Text.clusters draft.text).take count :=
  Text.clusters_flatten_take draft.text count

theorem length_clusters_upTo {count : Nat} (within : count ≤ draft.clusterCount) :
    (Text.clusters (draft.upTo count)).length = count := by
  rw [clusters_upTo]
  exact List.length_take_of_le within

theorem length_clusters_before (within : draft.cursor ≤ draft.clusterCount) :
    (Text.clusters draft.before).length = draft.cursor :=
  length_clusters_upTo within

/-- The characters of a text that a draft takes. -/
def taken (text : Text) : Text := text.filter (!isLineBreak ·)

theorem taken_eq_self (line : ∀ character ∈ left, isLineBreak character = false) :
    taken left = left := by
  refine List.filter_eq_self.mpr fun character inside => ?_
  rw [line character inside]
  rfl

theorem text_insert (draft : Draft) (text : Text) :
    (draft.insert text).text = draft.before ++ taken text ++ draft.after := by
  unfold insert taken
  simp only
  split
  · rename_i nothing
    rw [List.isEmpty_iff.mp nothing]
    simp
  · rfl

theorem cursor_insert (within : draft.cursor ≤ draft.clusterCount) (text : Text) :
    (draft.insert text).cursor =
      min ((Text.clusters draft.before).length + (Text.clusters (taken text)).length)
        (draft.insert text).clusterCount := by
  have count : (draft.insert text).clusterCount =
      (Text.clusters (draft.before ++ taken text ++ draft.after)).length := by
    rw [clusterCount, text_insert]
  rw [count, length_clusters_before within]
  unfold insert taken
  simp only
  split
  · rename_i nothing
    rw [List.isEmpty_iff.mp nothing]
    simpa [clusterCount] using (Nat.min_eq_left within).symm
  · rfl

/-- A character that is typed is a text that is pasted. -/
theorem insertChar_eq_insert (draft : Draft) (character : Char) :
    draft.insertChar character = draft.insert [character] := by
  unfold insertChar insert
  cases breaks : isLineBreak character with
  | true => simp [breaks]
  | false =>
      have line : [character].filter (!isLineBreak ·) = [character] := by simp [breaks]
      have single : (Text.clusters [character]).length = 1 := by
        simp [Text.clusters_cons, Text.clusterTail]
      simp only [line, single]
      rfl

/-- Pasted text leaves the cursor right behind it exactly if it has as many clusters behind the old
text as alone, or if nothing begins behind it; a typed character is pasted, too. -/
theorem insert_standsBehind_iff (within : draft.cursor ≤ draft.clusterCount)
    (line : ∀ character ∈ left, isLineBreak character = false) :
    (draft.insert left).text = draft.before ++ left ++ draft.after ∧
    ((draft.insert left).StandsBehind (draft.before ++ left).length ↔
      (Text.clusters (draft.before ++ left)).length =
          (Text.clusters draft.before).length + (Text.clusters left).length ∨
        (Text.clusters (draft.before ++ left ++ draft.after)).length =
          (Text.clusters (draft.before ++ left)).length) ∧
    ∀ character, draft.insertChar character = draft.insert [character] := by
  have text := text_insert draft left
  have cursor := cursor_insert within left
  rw [taken_eq_self line] at text cursor
  refine ⟨text, ?_, insertChar_eq_insert draft⟩
  have most := Text.length_clusters_append_le draft.before left
  have least := Text.length_clusters_le_append (draft.before ++ left) draft.after
  rw [standsBehind_iff text, cursor, clusterCount, text]
  omega

/-- An accented letter joins nothing, so pasted before a letter it has the cursor behind it. -/
theorem insert_standsBehind_accented :
    let draft : Draft := ⟨"ab".toList, 1⟩
    let accented : Text := ['e', '\u0301']
    draft.cursor ≤ draft.clusterCount ∧ (∀ character ∈ accented, isLineBreak character = false) ∧
      (draft.insert accented).StandsBehind 3 := by
  intro draft accented
  have within : draft.cursor ≤ draft.clusterCount := by decide +kernel
  have line : ∀ character ∈ accented, isLineBreak character = false := by
    simp [accented, isLineBreak]
  have counts : (Text.clusters (draft.before ++ accented)).length =
      (Text.clusters draft.before).length + (Text.clusters accented).length := by decide +kernel
  have length : (draft.before ++ accented).length = 3 := by decide +kernel
  have stands := (insert_standsBehind_iff within line).2.1.mpr (.inl counts)
  rw [length] at stands
  exact ⟨within, line, stands⟩

/-- An accent alone joins the letter before it: pasted, it takes the cursor past the letter behind
it; typed in a word, it puts the rest of the word in another place than pasting does. -/
theorem accent_strays :
    let draft : Draft := ⟨"ab".toList, 1⟩
    let word : Text := ['e', '\u0301', 'x']
    draft.cursor ≤ draft.clusterCount ∧ (∀ character ∈ word, isLineBreak character = false) ∧
      ¬ (draft.insert ['\u0301']).StandsBehind (draft.before ++ ['\u0301']).length ∧
      (draft.insert word).text = draft.before ++ word ++ draft.after ∧
      (draft.type word).text ≠ draft.before ++ word ++ draft.after := by
  intro draft word
  refine ⟨by decide +kernel, by simp [word, isLineBreak], ?_, by decide +kernel, by decide +kernel⟩
  intro stands
  have passed : 1 < (draft.insert ['\u0301']).cursor := by decide +kernel
  have early := stands.first 1 passed
  exact absurd early (by decide +kernel)

theorem eq_ofText (atEnd : draft.cursor = draft.clusterCount) : draft = ofText draft.text := by
  obtain ⟨text, cursor⟩ := draft
  exact congrArg (Draft.mk text) atEnd

theorem insert_atEnd (atEnd : draft.cursor = draft.clusterCount) (text : Text) :
    draft.insert text = ofText (draft.text ++ taken text) := by
  have whole : draft.before = draft.text := by
    rw [before, upTo, atEnd, clusterCount, List.take_length, Text.flatten_clusters]
  have nothing : draft.after = [] := by
    rw [after, beyond, atEnd, clusterCount, List.drop_length, List.flatten_nil]
  have entered : (draft.insert text).text = draft.text ++ taken text := by
    rw [text_insert, whole, nothing, List.append_nil]
  have most := Text.length_clusters_append_le draft.text (taken text)
  have cursor := cursor_insert (Nat.le_of_eq atEnd) text
  rw [whole, Nat.min_eq_right (by rw [clusterCount, entered]; exact most)] at cursor
  rw [eq_ofText cursor, entered]

theorem type_atEnd (atEnd : draft.cursor = draft.clusterCount) (text : Text) :
    draft.type text = ofText (draft.text ++ taken text) := by
  induction text generalizing draft with
  | nil => simpa [type, taken] using eq_ofText atEnd
  | cons first rest ih =>
      have typed : draft.insertChar first = ofText (draft.text ++ taken [first]) := by
        rw [insertChar_eq_insert, insert_atEnd atEnd]
      have all : taken (first :: rest) = taken [first] ++ taken rest :=
        List.filter_append [first] rest
      change (draft.insertChar first).type rest = _
      rw [typed, ih rfl, all, ← List.append_assoc]
      rfl

end GraphPrograms.Draft
