import GraphPrograms.Proofs.Session.History
import GraphPrograms.Review.Event

/-!
What an event can do to a review, said once.

An event rests, edits the draft or makes a move of the session (`handle_step`), and it leaves the
settings alone (`handle_sameSettings`).  What every such step keeps is kept by every run, whatever
the disk holds that programs are written to.
-/

namespace GraphPrograms

inductive DraftEdit where
  | insertChar (character : Char)
  | insert (text : Text)
  | deleteBack
  | deleteForward
  | deleteWord
  | clear
  | left
  | right
  | home
  | toEnd
deriving DecidableEq, Repr

def Draft.apply (draft : Draft) : DraftEdit → Draft
  | .insertChar character => draft.insertChar character
  | .insert text => draft.insert text
  | .deleteBack => draft.deleteBack
  | .deleteForward => draft.deleteForward
  | .deleteWord => draft.deleteWord
  | .clear => draft.clear
  | .left => draft.left
  | .right => draft.right
  | .home => draft.home
  | .toEnd => draft.toEnd

namespace Review

variable {review : Review}

/-- The session and the draft that one event can leave.  A submission is of the draft as it
stands, and of one that the policy accepts. -/
inductive Step (review : Review) : Session → Draft → Prop where
  | rest : Step review review.session review.draft
  | edit (edit : DraftEdit) : Step review review.session (review.draft.apply edit)
  | move {session : Session} (move : Move)
      (drafted : ∀ text, move = .submit text →
        text = review.draft.text ∧ review.policy.check text = .ok ())
      (made : review.session.attempt move = .ok session) : Step review session (prefilled session)

theorem Step.equations_eq {session : Session} {draft : Draft} (step : Step review session draft) :
    session.equations = review.session.equations := by
  cases step with
  | rest | edit => rfl
  | move move drafted made => exact Session.equations_of_attempt made

/-- A color is there before an event or is that of the draft, which the policy has accepted. -/
theorem Step.get?_assignment {session : Session} {draft : Draft} {index : Nat} {color : Color}
    (step : Step review session draft) (found : session.assignment.get? index = some color) :
    review.session.assignment.get? index = some color ∨
      review.policy.check review.draft.text = .ok () ∧ color = .ofText review.draft.text := by
  cases step with
  | rest | edit => exact .inl found
  | move move drafted made =>
      rcases Session.get?_of_attempt made found with before | ⟨text, rfl, rfl⟩
      · exact .inl before
      · obtain ⟨rfl, accepted⟩ := drafted text rfl
        exact .inr ⟨accepted, rfl⟩

@[simp] theorem session_moved (review : Review) (session : Session) :
    (review.moved session).session = session := by
  unfold moved
  split <;> rfl

@[simp] theorem draft_moved (review : Review) (session : Session) :
    (review.moved session).draft = prefilled session := by
  unfold moved
  split <;> rfl

theorem attempt_step (move : Move)
    (drafted : ∀ text, move = .submit text →
      text = review.draft.text ∧ review.policy.check text = .ok ()) :
    Step review (review.attempt (review.session.attempt move)).session
      (review.attempt (review.session.attempt move)).draft := by
  cases made : review.session.attempt move with
  | error violation => exact .rest
  | ok session =>
      rw [attempt, session_moved, draft_moved]
      exact .move move drafted made

theorem submit_step (review : Review) : Step review review.submit.session review.submit.draft := by
  unfold submit
  split
  · exact .rest
  · rename_i active
    cases checked : review.policy.check review.draft.text with
    | error refusal => exact .rest
    | ok accepted =>
        -- The session is not done, so the draft is not cleared in vain.
        have inside : review.session.cursor < review.session.total := by
          simpa [isDone, Session.isDone] using active
        cases made : review.session.submit review.draft.text with
        | error violation => simp [Session.submit, inside] at made
        | ok session =>
            simp only [attempt, session_moved, draft_moved]
            refine .move (.submit review.draft.text) ?_ made
            rintro text ⟨rfl⟩
            exact ⟨rfl, checked⟩

theorem generate_step (review : Review) (disk : Disk) :
    Step review (review.generate disk).1.session (review.generate disk).1.draft := by
  simp only [generate]
  split
  · exact .rest
  · split <;> exact .rest

theorem chord_step (review : Review) (disk : Disk) (character : Char) :
    Step review (review.chord disk character).1.session (review.chord disk character).1.draft := by
  unfold chord
  split
  · exact .rest
  · exact attempt_step .skip (by simp)
  · exact attempt_step .undo (by simp)
  · exact generate_step review disk
  · exact submit_step review
  · exact .edit .deleteWord
  · exact .edit .clear
  · exact .rest

theorem press_step (review : Review) (alt : Bool) (key : Key) :
    Step review (review.press alt key).session (review.press alt key).draft := by
  unfold press
  split
  · exact .rest
  · exact submit_step review
  · exact .edit .deleteBack
  · exact .edit .deleteForward
  · exact .edit .left
  · exact .edit .right
  · exact .edit .home
  · exact .edit .toEnd
  · split
    · exact .rest
    · exact .edit (.insertChar _)
  · exact .rest

theorem handle_step (review : Review) (disk : Disk) (event : Event) :
    Step review (review.handle disk event).1.session (review.handle disk event).1.draft := by
  unfold handle
  split
  · split
    · exact .rest
    · split
      · split
        · exact chord_step review disk _
        · exact .rest
      · exact press_step review _ _
  · exact .edit (.insert _)
  · exact .rest

/-- A review that differs from another at most in what events are about. -/
def SameSettings (review other : Review) : Prop :=
  ∃ session draft status? quitting, other =
    { review with session := session, draft := draft, status? := status?, quitting := quitting }

theorem SameSettings.policy_eq {other : Review} (same : review.SameSettings other) :
    other.policy = review.policy := by
  obtain ⟨_, _, _, _, rfl⟩ := same
  rfl

theorem moved_sameSettings (review : Review) (session : Session) :
    review.SameSettings (review.moved session) := by
  unfold moved
  split <;> exact ⟨_, _, _, _, rfl⟩

theorem attempt_sameSettings (review : Review) (outcome : Except Violation Session) :
    review.SameSettings (review.attempt outcome) := by
  cases outcome with
  | error violation => exact ⟨_, _, _, _, rfl⟩
  | ok session => exact moved_sameSettings review session

theorem submit_sameSettings (review : Review) : review.SameSettings review.submit := by
  unfold submit
  split
  · exact ⟨_, _, _, _, rfl⟩
  · split
    · exact ⟨_, _, _, _, rfl⟩
    · obtain ⟨_, _, _, _, same⟩ := attempt_sameSettings
        { review with draft := review.draft.clear } (review.session.submit review.draft.text)
      exact ⟨_, _, _, _, same⟩

theorem generate_sameSettings (review : Review) (disk : Disk) :
    review.SameSettings (review.generate disk).1 := by
  simp only [generate]
  split
  · exact ⟨_, _, _, _, rfl⟩
  · split <;> exact ⟨_, _, _, _, rfl⟩

theorem chord_sameSettings (review : Review) (disk : Disk) (character : Char) :
    review.SameSettings (review.chord disk character).1 := by
  unfold chord
  split
  · exact ⟨_, _, _, _, rfl⟩
  · exact attempt_sameSettings review _
  · exact attempt_sameSettings review _
  · exact generate_sameSettings review disk
  · exact submit_sameSettings review
  all_goals exact ⟨_, _, _, _, rfl⟩

theorem press_sameSettings (review : Review) (alt : Bool) (key : Key) :
    review.SameSettings (review.press alt key) := by
  cases key with
  | enter => exact submit_sameSettings review
  | char character => cases alt <;> exact ⟨_, _, _, _, rfl⟩
  | _ => exact ⟨_, _, _, _, rfl⟩

theorem handle_sameSettings (review : Review) (disk : Disk) (event : Event) :
    review.SameSettings (review.handle disk event).1 := by
  cases event with
  | key press =>
      simp only [handle]
      split
      · exact ⟨_, _, _, _, rfl⟩
      · split
        · split
          · exact chord_sameSettings review disk _
          · exact ⟨_, _, _, _, rfl⟩
        · exact press_sameSettings review _ _
  | _ => exact ⟨_, _, _, _, rfl⟩

def run (review : Review) (disk : Disk) (events : List Event) : Review × Disk :=
  events.foldl (fun state event => state.1.handle state.2 event) (review, disk)

theorem run_induction {motive : Review → Prop}
    (step : ∀ review disk event, motive review → motive (review.handle disk event).1)
    (start : motive review) (disk : Disk) (events : List Event) :
    motive (review.run disk events).1 := by
  induction events generalizing review disk with
  | nil => exact start
  | cons event events ih => exact ih (step review disk event start) (review.handle disk event).2

/-- A review as it is opened, told or not told where its equations came from. -/
def opened (equations : List Equation) (settings : Settings) (source? : Option (Path × Nat)) :
    Review :=
  let review := start (.ofEquations equations) settings
  match source? with
  | none => review
  | some (source, rejected) => review.fromSource source rejected

@[simp] theorem session_start (session : Session) (settings : Settings) :
    (start session settings).session = session := by
  unfold start
  split <;> rfl

@[simp] theorem policy_start (session : Session) (settings : Settings) :
    (start session settings).policy = settings.policy := by
  unfold start
  split <;> rfl

theorem opened_fresh (equations : List Equation) (settings : Settings)
    (source? : Option (Path × Nat)) :
    (opened equations settings source?).session = .ofEquations equations ∧
      (opened equations settings source?).draft = {} := by
  have fresh : (start (.ofEquations equations) settings).session = .ofEquations equations ∧
      (start (.ofEquations equations) settings).draft = {} := by
    refine ⟨session_start _ settings, ?_⟩
    unfold start
    split <;> rfl
  unfold opened
  split
  · exact fresh
  · simp only [fromSource]
    split <;> exact fresh

end Review

end GraphPrograms
