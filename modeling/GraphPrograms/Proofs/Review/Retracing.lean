import GraphPrograms.Proofs.Color.Canonical
import GraphPrograms.Proofs.Review.Recorded

/-!
Going back over colored equations and submitting what comes up leads to where one was.

After a move the draft holds the color of the equation under the cursor.  That color is read as
itself and the policy has let it in before, so submitting the draft records it once more in its own
place, which changes nothing but the cursor.
-/

namespace GraphPrograms

theorem Assignment.set_eq_self {assignment : Assignment} {index : Nat} {color : Color}
    (found : assignment.get? index = some color) : assignment.set index color = assignment := by
  have listed : assignment.colors[index]? = some (some color) := by
    simpa [get?, Option.join_eq_some_iff] using found
  obtain ⟨inside, entry⟩ := List.getElem?_eq_some_iff.mp listed
  rw [set, ← entry, List.set_getElem_self]

theorem cursorAfter_le {total cursor : Nat} (within : cursor ≤ total) (moves : List Move) :
    cursorAfter total cursor moves ≤ total := by
  induction moves generalizing cursor with
  | nil => exact within
  | cons move moves ih =>
      refine ih ?_
      unfold Move.next
      cases made : move.outcome total cursor with
      | ok next => exact Move.outcome_le within made
      | error violation => exact within

/-- A session each of whose colors is read as itself and passes a policy. -/
structure Session.Repeatable (policy : ColorPolicy) (session : Session) : Prop where
  cursor_le : session.cursor ≤ session.total
  colors : ∀ index color, session.assignment.get? index = some color →
    color.Canonical ∧ policy.check color.token = .ok ()

theorem Session.repeatable_run (equations : List Equation) (moves : List Move)
    {policy : ColorPolicy} (passes : ∀ index color,
      ((ofEquations equations).run moves).assignment.get? index = some color →
        policy.check color.token = .ok ()) :
    ((ofEquations equations).run moves).Repeatable policy where
  cursor_le := by
    rw [run_eq]
    exact cursorAfter_le (Nat.zero_le _) moves
  colors := by
    intro index color found
    refine ⟨?_, passes index color found⟩
    rw [get?_run_ofEquations, Option.map_eq_some_iff] at found
    obtain ⟨text, _, rfl⟩ := found
    exact Color.canonical_ofText text

namespace Review

variable {review : Review} {count : Nat}

theorem Step.repeatable {session : Session} {draft : Draft} (step : Step review session draft)
    (before : review.session.Repeatable review.policy) : session.Repeatable review.policy where
  cursor_le := by
    cases step with
    | rest | edit => exact before.cursor_le
    | move move drafted made =>
        obtain ⟨cursor, outcome, rfl⟩ := Session.attempt_eq_ok_iff.mp made
        exact Move.outcome_le before.cursor_le outcome
  colors := by
    intro index color found
    rcases step.get?_assignment found with earlier | ⟨accepted, rfl⟩
    · exact before.colors index color earlier
    · exact ⟨Color.canonical_ofText _, ColorPolicy.check_token_ofText accepted⟩

theorem repeatable_reached (before : review.session.Repeatable review.policy) (disk : Disk)
    (events : List Event) :
    (review.run disk events).1.session.Repeatable (review.run disk events).1.policy := by
  refine run_induction (motive := fun later => later.session.Repeatable later.policy) ?_ before
    disk events
  intro later disk event repeatable
  rw [policy_handle]
  exact (handle_step later disk event).repeatable repeatable

@[simp] theorem policy_undo (review : Review) : review.undo.policy = review.policy :=
  (attempt_sameSettings review _).policy_eq

@[simp] theorem policy_submit (review : Review) : review.submit.policy = review.policy :=
  (submit_sameSettings review).policy_eq

theorem undo_eq_moved (behind : 0 < review.session.cursor) :
    review.undo = review.moved { review.session with cursor := review.session.cursor - 1 } := by
  rw [undo, Session.undo, if_neg (Nat.ne_of_gt behind), attempt]

theorem iterate_undo (within : count ≤ review.session.cursor) :
    (undo^[count] review).policy = review.policy ∧
      (undo^[count] review).session =
        { review.session with cursor := review.session.cursor - count } := by
  induction count with
  | zero => exact ⟨rfl, rfl⟩
  | succ count ih =>
      obtain ⟨policy, session⟩ := ih (Nat.le_of_succ_le within)
      have behind : 0 < (undo^[count] review).session.cursor := by
        rw [session]
        exact Nat.sub_pos_of_lt within
      rw [Function.iterate_succ_apply', policy_undo, policy, undo_eq_moved behind, session_moved,
        session]
      exact ⟨rfl, rfl⟩

theorem undo_iterate_undo (within : count < review.session.cursor) :
    (undo^[count] review).session.undo = .ok (undo^[count + 1] review).session := by
  rw [(iterate_undo within).2, (iterate_undo (Nat.le_of_lt within)).2, Session.undo,
    if_neg (Nat.sub_ne_zero_of_lt within)]
  rfl

theorem draft_iterate_undo (some : 0 < count) (within : count ≤ review.session.cursor) :
    (undo^[count] review).draft = prefilled (undo^[count] review).session := by
  obtain ⟨turn, rfl⟩ := Nat.exists_eq_add_one.mpr some
  have behind : 0 < (undo^[turn] review).session.cursor := by
    rw [(iterate_undo (Nat.le_of_succ_le within)).2]
    exact Nat.sub_pos_of_lt within
  rw [Function.iterate_succ_apply', undo_eq_moved behind, draft_moved, session_moved]

/-- A review that stands some equations further on than another one, with the draft to start
from. -/
structure Ahead (start : Review) (turns : Nat) (review : Review) : Prop where
  policy : review.policy = start.policy
  session : review.session = { start.session with cursor := start.session.cursor + turns }
  draft : review.draft = prefilled review.session

/-- A color that is in the draft and recorded already is let in, and only the cursor moves. -/
theorem Ahead.submit {start : Review} (ahead : start.Ahead count review)
    (repeatable : start.session.Repeatable start.policy)
    (recorded : (start.session.assignment.get? (start.session.cursor + count)).isSome)
    (inside : start.session.cursor + count < start.session.total) :
    review.policy.check review.draft.text = .ok () ∧
      review.session.submit review.draft.text = .ok review.submit.session ∧
      start.Ahead (count + 1) review.submit := by
  obtain ⟨color, found⟩ := Option.isSome_iff_exists.mp recorded
  obtain ⟨canonical, passes⟩ := repeatable.colors _ color found
  have active : review.session.cursor < review.session.total := by
    rw [ahead.session]
    exact inside
  have notDone : review.isDone = false := by simpa [isDone, Session.isDone] using active
  have text : review.draft.text = color.token := by
    rw [ahead.draft, prefilled, Session.currentColor?, ahead.session, found]
    rfl
  have checked : review.policy.check review.draft.text = .ok () := by
    rw [ahead.policy, text, passes]
  have submitted : review.session.submit review.draft.text =
      .ok { start.session with cursor := start.session.cursor + (count + 1) } := by
    rw [Session.submit, if_pos active, text, canonical.ofText_token, ahead.session,
      Assignment.set_eq_self found]
    rfl
  have next : review.submit.session =
        { start.session with cursor := start.session.cursor + (count + 1) } ∧
      review.submit.draft = prefilled review.submit.session := by
    simp only [Review.submit, notDone, Bool.false_eq_true, if_false, checked, submitted, attempt,
      session_moved, draft_moved, and_self]
  refine ⟨checked, by rw [submitted, next.1], ?_, next.1, next.2⟩
  rw [policy_submit, ahead.policy]

theorem ahead_iterate_submit {start : Review}
    (repeatable : start.session.Repeatable start.policy)
    (drafted : start.draft = prefilled start.session)
    (recorded : ∀ turn < count,
      (start.session.assignment.get? (start.session.cursor + turn)).isSome)
    (inside : start.session.cursor + count ≤ start.session.total) :
    start.Ahead count (Review.submit^[count] start) := by
  induction count with
  | zero => exact ⟨rfl, rfl, drafted⟩
  | succ count ih =>
      have ahead := ih (fun turn earlier => recorded turn (by omega)) (by omega)
      rw [Function.iterate_succ_apply']
      exact (ahead.submit repeatable (recorded count (by omega)) (by omega)).2.2

/-- Undoing moves over colored equations and submitting as many times succeeds at every turn and
gives the session back. -/
def Retraces (review : Review) : Prop :=
  ∀ count ≤ review.session.cursor,
    (∀ index, review.session.cursor - count ≤ index → index < review.session.cursor →
      (review.session.assignment.get? index).isSome) →
    let back := undo^[count] review
    (∀ turn < count, (undo^[turn] review).session.undo = .ok (undo^[turn + 1] review).session) ∧
    (∀ turn < count,
      (submit^[turn] back).policy.check (submit^[turn] back).draft.text = .ok () ∧
      (submit^[turn] back).session.submit (submit^[turn] back).draft.text =
        .ok (submit^[turn + 1] back).session) ∧
    (submit^[count] back).session = review.session

theorem retraces_of_repeatable (repeatable : review.session.Repeatable review.policy) :
    review.Retraces := by
  intro count within recorded back
  obtain ⟨policy, session⟩ := iterate_undo within
  have backRepeatable : back.session.Repeatable back.policy := by
    rw [policy, session]
    exact ⟨Nat.le_trans (Nat.sub_le _ _) repeatable.cursor_le, repeatable.colors⟩
  have backRecorded : ∀ turn < count,
      (back.session.assignment.get? (back.session.cursor + turn)).isSome := by
    intro turn earlier
    rw [session]
    exact recorded _ (Nat.le_add_right _ _) (by simp only; omega)
  have backInside : back.session.cursor + count ≤ back.session.total := by
    have bounded := repeatable.cursor_le
    rw [session]
    simp only [Session.total] at bounded ⊢
    omega
  -- With no turn at all the draft need not be that of the equation under the cursor.
  have ahead : ∀ turn ≤ count, 0 < count → back.Ahead turn (submit^[turn] back) := by
    intro turn upTo some
    exact ahead_iterate_submit backRepeatable (draft_iterate_undo some within)
      (fun earlier before => backRecorded earlier (Nat.lt_of_lt_of_le before upTo)) (by omega)
  refine ⟨fun turn before => undo_iterate_undo (Nat.lt_of_lt_of_le before within), ?turns, ?same⟩
  case turns =>
    intro turn before
    obtain ⟨checked, submitted, _⟩ := (ahead turn (Nat.le_of_lt before) (by omega)).submit
      backRepeatable (backRecorded turn before) (by omega)
    rw [Function.iterate_succ_apply']
    exact ⟨checked, submitted⟩
  case same =>
    cases count with
    | zero => rfl
    | succ count =>
        rw [(ahead (count + 1) (Nat.le_refl _) (Nat.succ_pos _)).session, session]
        simp only [Nat.sub_add_cancel within]

theorem prefilled_shows (session : Session) :
    (prefilled session).text =
        ((session.assignment.get? session.cursor).map Color.token).getD [] ∧
      (prefilled session).cursor = (prefilled session).clusterCount := by
  unfold prefilled Session.currentColor?
  cases session.assignment.get? session.cursor with
  | none => simp [Draft.clusterCount]
  | some color => exact ⟨rfl, rfl⟩

theorem draft_attempt {outcome : Except Violation Session}
    (moved : (review.attempt outcome).session.cursor ≠ review.session.cursor) :
    (review.attempt outcome).draft = prefilled (review.attempt outcome).session := by
  cases outcome with
  | error violation => exact absurd rfl moved
  | ok session => rw [attempt, draft_moved, session_moved]

theorem draft_submit (moved : review.submit.session.cursor ≠ review.session.cursor) :
    review.submit.draft = prefilled review.submit.session := by
  unfold submit at moved ⊢
  split at moved
  · exact absurd rfl moved
  · rename_i active
    rw [if_neg active]
    cases checked : review.policy.check review.draft.text with
    | error refusal => simp [checked, notify] at moved
    | ok accepted =>
        simp only [checked] at moved
        exact draft_attempt moved

/-- After every move the draft is the one to start from. -/
theorem draft_of_moved {next : Review} (member : next ∈ [review.submit, review.skip, review.undo])
    (moved : next.session.cursor ≠ review.session.cursor) :
    next.draft = prefilled next.session := by
  simp only [List.mem_cons, List.not_mem_nil, or_false] at member
  rcases member with rfl | rfl | rfl
  · exact draft_submit moved
  · exact draft_attempt moved
  · exact draft_attempt moved

/-- Undos over colored equations are taken back by as many submissions of what the draft then holds,
and after every move the draft holds the color that is recorded for the equation under the cursor.
The second part is for sessions that have colors when the review starts. -/
theorem submissions_retrace_undos (settings : Settings) (disk : Disk) (events : List Event) :
    (∀ (equations : List Equation) (source? : Option (Path × Nat)),
      ((opened equations settings source?).run disk events).1.Retraces) ∧
    (∀ (equations : List Equation) (moves : List Move),
      let session := (Session.ofEquations equations).run moves
      (∀ index color, session.assignment.get? index = some color →
        settings.policy.check color.token = .ok ()) →
      ((start session settings).run disk events).1.Retraces) ∧
    ∀ review : Review, ∀ next ∈ [review.submit, review.skip, review.undo],
      next.session.cursor ≠ review.session.cursor →
      next.draft.text =
          ((next.session.assignment.get? next.session.cursor).map Color.token).getD [] ∧
        next.draft.cursor = next.draft.clusterCount := by
  refine ⟨?fresh, ?resumed, ?drafts⟩
  case fresh =>
    intro equations source?
    refine retraces_of_repeatable (repeatable_reached ?_ disk events)
    rw [(opened_fresh equations settings source?).1]
    exact Session.repeatable_run equations [] fun index color found => by
      simp [Session.run, Session.ofEquations] at found
  case resumed =>
    intro equations moves session passes
    refine retraces_of_repeatable (repeatable_reached ?_ disk events)
    rw [session_start, policy_start]
    exact Session.repeatable_run equations moves passes
  case drafts =>
    intro review next member moved
    rw [draft_of_moved member moved]
    exact prefilled_shows next.session

/-- A number that was given before the review started and one that is typed in it, both submitted
again. -/
theorem submissions_retrace_undos_resumed :
    let settings : Settings :=
      { input := .ofString "in", rejects := .ofString "bad", plain := false, layout := {},
        policy := .between 10 1, look := {} }
    let disk : Disk := { root := .folder [] }
    let equation : Equation := ⟨['x'], []⟩
    let session := (Session.ofEquations [equation, equation]).run [.submit " 7 ".toList]
    let review := ((start session settings).run disk
      [.paste "+8 ".toList, .key { key := .enter }]).1
    (∀ index color, session.assignment.get? index = some color →
      settings.policy.check color.token = .ok ()) ∧
    review.session.cursor = 2 ∧
    review.undo.undo.draft.text = "7".toList ∧
    (submit^[2] (undo^[2] review)).session = review.session := by
  intro settings disk equation session review
  have colors : session = ⟨[equation, equation], ⟨[some ⟨"7".toList⟩, none]⟩, 1⟩ := by
    decide +kernel
  have passes : ∀ index color, session.assignment.get? index = some color →
      settings.policy.check color.token = .ok () := by
    rw [colors]
    intro index color found
    match index with
    | 0 =>
        cases found
        decide
    | 1 => cases found
    | _ + 2 => cases found
  have ended : review.session =
      ⟨[equation, equation], ⟨[some ⟨"7".toList⟩, some ⟨"+8".toList⟩]⟩, 2⟩ := by
    decide +kernel
  have cursor : review.session.cursor = 2 := congrArg Session.cursor ended
  have undone : review.undo.undo.session =
      ⟨[equation, equation], ⟨[some ⟨"7".toList⟩, some ⟨"+8".toList⟩]⟩, 0⟩ := by
    decide +kernel
  have once : review.undo.session.cursor = 1 := by decide +kernel
  have recorded : ∀ index, review.session.cursor - 2 ≤ index → index < review.session.cursor →
      (review.session.assignment.get? index).isSome := by
    rw [ended]
    intro index _ before
    match index with
    | 0 | 1 => rfl
    | later + 2 => exact absurd before (by simp)
  obtain ⟨_, resumed, drafts⟩ := submissions_retrace_undos settings disk
    [.paste "+8 ".toList, .key { key := .enter }]
  have retraces : review.Retraces :=
    resumed [equation, equation] [.submit " 7 ".toList] passes
  have same := (retraces 2 (Nat.le_of_eq cursor.symm) recorded).2.2
  obtain ⟨text, _⟩ := drafts review.undo review.undo.undo (by simp) (by rw [undone, once]; decide)
  refine ⟨passes, cursor, ?_, same⟩
  rw [text, undone]
  rfl

end Review

end GraphPrograms
