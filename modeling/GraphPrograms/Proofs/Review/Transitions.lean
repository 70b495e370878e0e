import GraphPrograms.Proofs.Review.Consistent

/-!
A step of a review is made as a whole or not at all.

Submitting, skipping and going back each have a guard, and submitting has that of the policy, too.
Behind the guards nothing can fail, so the draft is given up only for a color that is recorded.
-/

namespace GraphPrograms.Review

variable {review : Review} {session : Session}

/-- A move to a cursor that leaves given colors, with nothing to complain of. -/
structure Moves (before after : Review) (cursor : Nat) (color? : Nat → Option Color) : Prop where
  equations_eq : after.session.equations = before.session.equations
  cursor_eq : after.session.cursor = cursor
  colors_eq : ∀ index, after.session.assignment.get? index = color? index
  praised : ∀ status, after.status? = some status → status.kind = .success

/-- A refusal that is told and changes nothing else. -/
structure Refuses (before after : Review) : Prop where
  session_eq : after.session = before.session
  draft_eq : after.draft = before.draft
  told : ∃ status, after.status? = some status ∧ (status.kind = .warning ∨ status.kind = .error)

theorem moves_moved (review : Review) (session : Session)
    (same : session.equations = review.session.equations) :
    review.Moves (review.moved session) session.cursor session.assignment.get? where
  equations_eq := by rw [session_moved, same]
  cursor_eq := by rw [session_moved]
  colors_eq := fun index => by rw [session_moved]
  praised := by
    intro status shown
    simp only [moved] at shown
    split at shown
    · cases shown
      rfl
    · contradiction

theorem refuses_refuse (review : Review) (violation : Violation) :
    review.Refuses (review.refuse violation) :=
  ⟨rfl, rfl, _, rfl, .inl rfl⟩

theorem refuses_notify_error (review : Review) (text : Text) :
    review.Refuses (review.notify .error text) :=
  ⟨rfl, rfl, _, rfl, .inr rfl⟩

theorem skip_moves (inside : review.session.cursor < review.session.total) :
    review.Moves review.skip (review.session.cursor + 1) review.session.assignment.get? := by
  have made : review.session.skip =
      .ok { review.session with cursor := review.session.cursor + 1 } := if_pos inside
  rw [skip, made, attempt]
  exact moves_moved review _ rfl

theorem skip_refuses (atEnd : ¬ review.session.cursor < review.session.total) :
    review.Refuses review.skip := by
  have refused : review.session.skip = .error .sessionComplete := if_neg atEnd
  rw [skip, refused]
  exact refuses_refuse review .sessionComplete

theorem undo_moves (behind : 0 < review.session.cursor) :
    review.Moves review.undo (review.session.cursor - 1) review.session.assignment.get? := by
  have made : review.session.undo =
      .ok { review.session with cursor := review.session.cursor - 1 } :=
    if_neg (Nat.ne_of_gt behind)
  rw [undo, made, attempt]
  exact moves_moved review _ rfl

theorem undo_refuses (atStart : ¬ 0 < review.session.cursor) : review.Refuses review.undo := by
  have refused : review.session.undo = .error .atFirstEquation :=
    if_pos (Nat.eq_zero_of_not_pos atStart)
  rw [undo, refused]
  exact refuses_refuse review .atFirstEquation

/-- A session that is not done takes every text. -/
theorem submit_of_not_isDone (active : session.isDone = false) (text : Text) :
    session.submit text = .ok { session with
      assignment := session.assignment.set session.cursor (.ofText text)
      cursor := session.cursor + 1 } :=
  if_pos (Nat.lt_of_not_le (of_decide_eq_false active))

theorem submit_moves (sized : review.session.assignment.size = review.session.total)
    (inside : review.session.cursor < review.session.total)
    (passes : review.policy.check review.draft.text = .ok ()) :
    review.Moves review.submit (review.session.cursor + 1) fun index =>
      if index = review.session.cursor then some (.ofText review.draft.text)
      else review.session.assignment.get? index := by
  have active : review.session.isDone = false := decide_eq_false (Nat.not_le_of_lt inside)
  let next : Session := { review.session with
    assignment := review.session.assignment.set review.session.cursor (.ofText review.draft.text)
    cursor := review.session.cursor + 1 }
  have submitted :
      review.submit = { review with draft := review.draft.clear }.moved next := by
    rw [submit, isDone, active, if_neg Bool.false_ne_true, passes]
    simp only [submit_of_not_isDone active, attempt, next]
  have moves := moves_moved { review with draft := review.draft.clear } next rfl
  rw [submitted]
  refine ⟨moves.equations_eq, moves.cursor_eq, fun index => (moves.colors_eq index).trans ?_,
    moves.praised⟩
  split
  · rename_i here
    rw [here]
    exact Assignment.get?_set_self (sized ▸ inside) _
  · rename_i elsewhere
    exact Assignment.get?_set_of_ne (Ne.symm elsewhere) _

theorem submit_refuses (held : ¬ (review.session.cursor < review.session.total ∧
      review.policy.check review.draft.text = .ok ())) : review.Refuses review.submit := by
  unfold submit
  split
  · exact refuses_refuse review .sessionComplete
  · rename_i active
    have inside : review.session.cursor < review.session.total := by
      simpa [isDone, Session.isDone] using active
    cases checked : review.policy.check review.draft.text with
    | ok _ => exact absurd ⟨inside, checked⟩ held
    | error refusal => exact refuses_notify_error review refusal.message

/-- Whatever the draft, the policy and the rest of a review are: a submission, a skip and a step back
move the cursor by one and change no color but that of the draft, or they are refused, which changes
nothing and is told.  Past its guard a submission cannot be refused any more. -/
theorem transitions_move_or_refuse (review : Review) (equations : List Equation)
    (moves : List Move) :
    let current := { review with session := (Session.ofEquations equations).run moves }
    let cursor := current.session.cursor
    let color? := current.session.assignment.get?
    (if cursor < equations.length ∧ current.policy.check current.draft.text = .ok () then
        current.Moves current.submit (cursor + 1) fun index =>
          if index = cursor then some (.ofText current.draft.text) else color? index
      else current.Refuses current.submit) ∧
    (if cursor < equations.length then current.Moves current.skip (cursor + 1) color?
      else current.Refuses current.skip) ∧
    (if 0 < cursor then current.Moves current.undo (cursor - 1) color?
      else current.Refuses current.undo) ∧
    ∀ text, current.isDone = false → ∃ next, current.session.submit text = .ok next := by
  intro current cursor color?
  have consistent := (Session.consistent_ofEquations equations).run moves
  have total : current.session.total = equations.length :=
    congrArg List.length consistent.equations_eq
  rw [← total]
  refine ⟨?submit, ?skip, ?undo, fun text active => ⟨_, submit_of_not_isDone active text⟩⟩
  case submit =>
    split
    · rename_i may
      exact submit_moves consistent.size_eq may.1 may.2
    · rename_i held
      exact submit_refuses held
  case skip =>
    split
    · rename_i inside
      exact skip_moves inside
    · rename_i atEnd
      exact skip_refuses atEnd
  case undo =>
    split
    · rename_i behind
      exact undo_moves behind
    · rename_i atStart
      exact undo_refuses atStart

end GraphPrograms.Review
