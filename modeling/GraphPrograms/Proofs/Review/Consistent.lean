import GraphPrograms.Proofs.Color.Canonical
import GraphPrograms.Proofs.Review.Step

/-!
What always holds of the session of a review.

A move keeps the equations, leaves the cursor on one of them or right behind the last one, and gives
at most one of them a color, which is read as itself (`Session.Consistent.of_attempt`).  An event
does no more to the session than a move.  So it does not matter whether a review, its session, what
is shown of it or its cursor is asked for the end.
-/

namespace GraphPrograms

namespace Session

variable {equations : List Equation} {session next : Session} {move : Move}

/-- A session of given equations whose cursor and colors belong to them. -/
structure Consistent (equations : List Equation) (session : Session) : Prop where
  equations_eq : session.equations = equations
  cursor_le : session.cursor ≤ session.total
  size_eq : session.assignment.size = session.total
  canonical : ∀ index color, session.assignment.get? index = some color → color.Canonical

theorem consistent_ofEquations (equations : List Equation) :
    (ofEquations equations).Consistent equations where
  equations_eq := rfl
  cursor_le := Nat.zero_le _
  size_eq := Assignment.size_blank _
  canonical := by
    intro index color found
    simp [ofEquations] at found

theorem Consistent.of_attempt (consistent : session.Consistent equations)
    (made : session.attempt move = .ok next) : next.Consistent equations where
  equations_eq := (equations_of_attempt made).trans consistent.equations_eq
  cursor_le := by
    obtain ⟨cursor, outcome, rfl⟩ := attempt_eq_ok_iff.mp made
    exact Move.outcome_le consistent.cursor_le outcome
  size_eq := by
    obtain ⟨cursor, outcome, rfl⟩ := attempt_eq_ok_iff.mp made
    exact (Assignment.size_record _ _).trans consistent.size_eq
  canonical := by
    intro index color found
    rcases get?_of_attempt made found with before | ⟨text, _, rfl⟩
    · exact consistent.canonical index color before
    · exact Color.canonical_ofText text

theorem Consistent.run (consistent : session.Consistent equations) (moves : List Move) :
    (session.run moves).Consistent equations := by
  induction moves generalizing session with
  | nil => exact consistent
  | cons move moves ih =>
      refine ih ?_
      unfold after
      cases made : session.attempt move with
      | ok next => exact consistent.of_attempt made
      | error violation => exact consistent

theorem Consistent.assigned_le (consistent : session.Consistent equations) :
    session.assignment.assigned ≤ session.total :=
  consistent.size_eq ▸ session.assignment.assigned_le_size

section Completion

variable (consistent : session.Consistent equations)

include consistent

theorem Consistent.isDone_iff : session.isDone = true ↔ session.cursor = session.total := by
  have within := consistent.cursor_le
  rw [isDone, decide_eq_true_iff]
  omega

theorem Consistent.state_eq_done_iff : session.state = .done ↔ session.cursor = session.total := by
  have within := consistent.cursor_le
  unfold state
  split
  · rename_i inside
    simp only [reduceCtorEq, false_iff]
    omega
  · simp only [true_iff]
    omega

theorem Consistent.current_view_eq_none_iff :
    session.view.current = none ↔ session.cursor = session.total := by
  have within := consistent.cursor_le
  rw [view, Option.map_eq_none_iff, current?, List.getElem?_eq_none_iff]
  unfold total at within ⊢
  omega

end Completion

end Session

namespace Review

variable {review : Review} {equations : List Equation}

/-- A review of a session that may have begun, told or not told where its equations came from. -/
def resumed (session : Session) (settings : Settings) (source? : Option (Path × Nat)) : Review :=
  match source? with
  | none => start session settings
  | some (source, rejected) => (start session settings).fromSource source rejected

@[simp] theorem session_resumed (session : Session) (settings : Settings)
    (source? : Option (Path × Nat)) : (resumed session settings source?).session = session := by
  unfold resumed
  split
  · exact session_start session settings
  · simp only [fromSource]
    split <;> exact session_start session settings

theorem Step.consistent {session : Session} {draft : Draft} (step : Step review session draft)
    (before : review.session.Consistent equations) : session.Consistent equations := by
  cases step with
  | rest | edit => exact before
  | move move drafted made => exact before.of_attempt made

theorem consistent_run (before : review.session.Consistent equations) (disk : Disk)
    (events : List Event) : (review.run disk events).1.session.Consistent equations :=
  run_induction (motive := fun review => review.session.Consistent equations)
    (fun review disk event before => (handle_step review disk event).consistent before)
    before disk events

/-- Whatever happens in a review, of a fresh session or of one that has begun: the equations stay,
cursor and colors belong to them, no more equations are colored than there are, all ways to tell the
end agree, and a color is visible, trimmed and read as itself. -/
theorem session_stays_consistent (equations : List Equation) (moves : List Move)
    (settings : Settings) (source? : Option (Path × Nat)) (disk : Disk) (events : List Event) :
    let first := resumed ((Session.ofEquations equations).run moves) settings source?
    let review := (first.run disk events).1
    let session := review.session
    session.equations = equations ∧
    session.cursor ≤ equations.length ∧
    session.assignment.colors.length = equations.length ∧
    session.view.total = equations.length ∧
    session.view.assigned ≤ session.view.total ∧
    session.view.processed = session.cursor ∧
    (review.isDone = true ↔ session.cursor = equations.length) ∧
    (session.state = .done ↔ session.cursor = equations.length) ∧
    (session.view.current = none ↔ session.cursor = equations.length) ∧
    ∀ index color, session.assignment.get? index = some color →
      color.token ≠ [] ∧ Text.trim color.token = color.token ∧
        Color.ofText color.token = color := by
  intro first review session
  have begun : first.session.Consistent equations := by
    rw [session_resumed]
    exact (Session.consistent_ofEquations equations).run moves
  have consistent : session.Consistent equations := consistent_run begun disk events
  have total : session.total = equations.length := congrArg List.length consistent.equations_eq
  rw [← total]
  refine ⟨consistent.equations_eq, consistent.cursor_le, consistent.size_eq, rfl,
    consistent.assigned_le, rfl, consistent.isDone_iff, consistent.state_eq_done_iff,
    consistent.current_view_eq_none_iff, ?colors⟩
  case colors =>
    intro index color found
    have canonical := consistent.canonical index color found
    exact ⟨canonical.visible, canonical.trimmed, canonical.ofText_token⟩

end Review

end GraphPrograms
