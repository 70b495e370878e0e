import GraphPrograms.Proofs.Draft.Entering
import GraphPrograms.Proofs.Review.Retracing

/-!
Typing a color at the end of the draft and pasting it come to the same.

Keys and pastes change the draft alone.  Both leave the same draft if the cursor is at its end, as
it is at the start and after every move, and then the key that submits does the same.
-/

namespace GraphPrograms

theorem Session.total_run_ofEquations (equations : List Equation) (moves : List Move) :
    ((ofEquations equations).run moves).total = equations.length := by
  rw [run_eq]
  rfl

namespace Review

variable {review : Review} {disk : Disk}

/-- The presses that type a text. -/
def typing (text : Text) : List Event := text.map fun character => .key { key := .char character }

/-- The press that submits the draft. -/
def entering : Event := .key { key := .enter }

theorem run_append (review : Review) (disk : Disk) (earlier later : List Event) :
    review.run disk (earlier ++ later) =
      (review.run disk earlier).1.run (review.run disk earlier).2 later :=
  List.foldl_append

theorem run_typing (review : Review) (disk : Disk) (text : Text) :
    review.run disk (typing text) = (review.edit (Draft.type · text), disk) := by
  induction text generalizing review with
  | nil => rfl
  | cons first rest ih => exact ih (review.edit (Draft.insertChar · first))

theorem run_paste (review : Review) (disk : Disk) (text : Text) :
    review.run disk [.paste text] = (review.edit (Draft.insert · text), disk) := rfl

theorem run_typing_eq_run_paste (atEnd : review.draft.cursor = review.draft.clusterCount)
    (text : Text) : review.run disk (typing text) = review.run disk [.paste text] := by
  rw [run_typing, run_paste, edit, edit, Draft.type_atEnd atEnd, Draft.insert_atEnd atEnd]

theorem get?_submit (review : Review) {equations : List Equation} {moves : List Move}
    (reached : review.session = (Session.ofEquations equations).run moves)
    (active : review.session.cursor < review.session.total)
    (passes : review.policy.check review.draft.text = .ok ()) :
    review.submit.session.assignment.get? review.session.cursor =
      some (.ofText review.draft.text) := by
  have notDone : review.isDone = false := by simpa [isDone, Session.isDone] using active
  have inside : review.session.cursor < review.session.assignment.size := by
    rw [reached, Session.total_run_ofEquations] at active
    rw [reached, Session.size_run_ofEquations]
    exact active
  have submitted : review.session.submit review.draft.text = .ok { review.session with
      assignment := review.session.assignment.set review.session.cursor (.ofText review.draft.text)
      cursor := review.session.cursor + 1 } := if_pos active
  simp only [submit, notDone, Bool.false_eq_true, if_false, passes, submitted, attempt,
    session_moved]
  exact Assignment.get?_set_self inside _

/-- With the cursor at the end of the draft, where every start and every move puts it, a text that
is typed and submitted leaves the review just as one that is pasted and submitted does, and records
the color of the old draft with the text behind it. -/
theorem typing_agrees_with_pasting (review : Review) (disk : Disk) (text : Text)
    (atEnd : review.draft.cursor = review.draft.clusterCount) :
    review.run disk (typing text ++ [entering]) = review.run disk [.paste text, entering] ∧
    (∀ (equations : List Equation) (moves : List Move),
      review.session = (Session.ofEquations equations).run moves →
      review.session.cursor < equations.length →
      let entered := review.draft.text ++ text.filter (fun c => c != '\n' && c != '\r')
      review.policy.check entered = .ok () →
        ((review.run disk [.paste text, entering]).1.session.assignment.get?
          review.session.cursor = some (.ofText entered))) ∧
    (∀ (equations : List Equation) (settings : Settings) (source? : Option (Path × Nat)),
      (opened equations settings source?).draft.cursor =
        (opened equations settings source?).draft.clusterCount) ∧
    ∀ other : Review, ∀ next ∈ [other.submit, other.skip, other.undo],
      next.session.cursor ≠ other.session.cursor → next.draft.cursor = next.draft.clusterCount := by
  have entered : Draft.taken text = text.filter (fun c => c != '\n' && c != '\r') := by
    simp [Draft.taken, Draft.isLineBreak, bne]
  refine ⟨?same, ?recorded, ?opened, fun other next member moved => ?moved⟩
  case same =>
    rw [run_append, run_typing_eq_run_paste atEnd, ← run_append]
    rfl
  case recorded =>
    intro equations moves reached active all passes
    have draft : (review.edit (Draft.insert · text)).draft.text = all := by
      rw [edit, Draft.insert_atEnd atEnd, entered]
      rfl
    have total : review.session.total = equations.length := by
      rw [reached, Session.total_run_ofEquations]
    have recorded := get?_submit (review.edit (Draft.insert · text)) reached
      (total ▸ active) (draft ▸ passes)
    rw [draft] at recorded
    exact recorded
  case opened =>
    intro equations settings source?
    rw [(opened_fresh equations settings source?).2]
    simp [Draft.clusterCount]
  case moved =>
    rw [draft_of_moved member moved]
    exact (prefilled_shows next.session).2

/-- An accent for the letter that is there, a line break, and a letter behind it. -/
theorem typing_agrees_with_pasting_accented :
    let review : Review :=
      { session := .ofEquations [⟨['x'], []⟩], draft := .ofText ['e'] }
    let disk : Disk := { root := .folder [] }
    let text : Text := ['\u0301', '\n', 'x']
    review.draft.cursor = review.draft.clusterCount ∧
      review.run disk (typing text ++ [entering]) = review.run disk [.paste text, entering] ∧
      (review.run disk [.paste text, entering]).1.session.assignment.get? 0 =
        some (.ofText ['e', '\u0301', 'x']) := by
  intro review disk text
  have atEnd : review.draft.cursor = review.draft.clusterCount := rfl
  obtain ⟨same, recorded, _⟩ := typing_agrees_with_pasting review disk text atEnd
  exact ⟨atEnd, same, recorded [⟨['x'], []⟩] [] rfl Nat.zero_lt_one rfl⟩

end Review

end GraphPrograms
