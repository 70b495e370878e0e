import GraphPrograms.Proofs.Color.Range
import GraphPrograms.Proofs.Review.Step

/-!
The colors that a review records under a range of numbers.

A color comes in by a submission alone, and a submission is of a draft that the policy has accepted.
The policy is the same from the first event to the last, so all that has to be carried along a run
is where each color came from.
-/

namespace GraphPrograms.Review

variable {review : Review} {low high : Nat}

@[simp] theorem policy_handle (review : Review) (disk : Disk) (event : Event) :
    (review.handle disk event).1.policy = review.policy :=
  (handle_sameSettings review disk event).policy_eq

@[simp] theorem policy_opened (equations : List Equation) (settings : Settings)
    (source? : Option (Path × Nat)) :
    (opened equations settings source?).policy = settings.policy := by
  unfold opened
  split
  · exact policy_start _ settings
  · simp only [fromSource]
    split <;> exact policy_start _ settings

/-- Every color of a session lies within the range or was there at the start. -/
def WithinSince (first : Assignment) (low high : Nat) (assignment : Assignment) : Prop :=
  ∀ index color, assignment.get? index = some color →
    color.Within low high ∨ first.get? index = some color

theorem Step.withinSince {first : Assignment} {session : Session} {draft : Draft}
    (step : Step review session draft) (ranged : review.policy = .numeric low high)
    (before : WithinSince first low high review.session.assignment) :
    WithinSince first low high session.assignment := by
  intro index color found
  rcases step.get?_assignment found with earlier | ⟨accepted, rfl⟩
  · exact before index color earlier
  · rw [ranged] at accepted
    exact .inl (Color.within_ofText accepted)

theorem withinSince_run (ranged : review.policy = .numeric low high) (disk : Disk)
    (events : List Event) :
    WithinSince review.session.assignment low high
      (review.run disk events).1.session.assignment := by
  have kept : (review.run disk events).1.policy = .numeric low high ∧
      WithinSince review.session.assignment low high
        (review.run disk events).1.session.assignment := by
    refine run_induction (motive := fun later => later.policy = .numeric low high ∧
      WithinSince review.session.assignment low high later.session.assignment) ?_
      ⟨ranged, fun index color found => .inr found⟩ disk events
    rintro later disk event ⟨laterRanged, before⟩
    exact ⟨(policy_handle later disk event).trans laterRanged,
      (handle_step later disk event).withinSince laterRanged before⟩
  exact kept.2

/-- Under a range of numbers a review records no color outside it, whatever is typed, pasted, taken
back or submitted again.  The second part is for reviews that are not fresh. -/
theorem recorded_colors_within (low high : Nat) (disk : Disk) (events : List Event) :
    (∀ (equations : List Equation) (settings : Settings) (source? : Option (Path × Nat)),
      settings.policy = .numeric low high → ∀ index color,
        ((opened equations settings source?).run disk events).1.session.assignment.get? index =
          some color → color.Within low high) ∧
      ∀ review : Review, review.policy = .numeric low high → ∀ index color,
        (review.run disk events).1.session.assignment.get? index = some color →
          color.Within low high ∨ review.session.assignment.get? index = some color := by
  refine ⟨?fresh, fun review ranged => withinSince_run ranged disk events⟩
  case fresh =>
    intro equations settings source? ranged index color found
    have opening : (opened equations settings source?).policy = .numeric low high := by
      rw [policy_opened, ranged]
    rcases withinSince_run opening disk events index color found with within | before
    · exact within
    · rw [(opened_fresh equations settings source?).1] at before
      simp [Session.ofEquations] at before

/-- A name that is refused, then a number among blanks; and a review that had a name before. -/
theorem recorded_colors_within_retyped :
    let disk : Disk := { root := .folder [] }
    let settings : Settings :=
      { input := .ofString "in", rejects := .ofString "bad", plain := false, layout := {},
        policy := .between 10 1, look := {} }
    let events : List Event := [.paste "red".toList, .key { key := .enter },
      .key { key := .char 'u', control := true }, .paste " +7\n ".toList, .key { key := .enter }]
    let equation : Equation := ⟨['x'], []⟩
    let named : Review :=
      { session := ⟨[equation, equation], ⟨[none, some ⟨"RED".toList⟩]⟩, 0⟩
        policy := .numeric 1 10 }
    let fresh := ((opened [equation] settings none).run disk events).1.session
    let resumed := (named.run disk events).1.session
    settings.policy = .numeric 1 10 ∧
      fresh.assignment.get? 0 = some ⟨"+7".toList⟩ ∧
      Color.Within 1 10 ⟨"+7".toList⟩ ∧
      resumed.assignment.get? 1 = some ⟨"RED".toList⟩ ∧
      (Color.Within 1 10 ⟨"RED".toList⟩ ∨
        named.session.assignment.get? 1 = some ⟨"RED".toList⟩) := by
  intro disk settings events equation named fresh resumed
  have ranged : settings.policy = .numeric 1 10 := by decide
  have recorded : fresh.assignment.get? 0 = some ⟨"+7".toList⟩ := by decide +kernel
  have kept : resumed.assignment.get? 1 = some ⟨"RED".toList⟩ := by decide +kernel
  obtain ⟨opening, later⟩ := recorded_colors_within 1 10 disk events
  exact ⟨ranged, recorded, opening [equation] settings none ranged 0 _ recorded, kept,
    later named rfl 1 _ kept⟩

end GraphPrograms.Review
