import GraphPrograms.Proofs.Review.Transitions
import GraphPrograms.Proofs.Review.Unbroken

/-!
Which event has which effect.

An event asks for one action, and what becomes of the review and of the disk is a matter of that
action alone (`handle_eq`).  So there are two things to read off: which keys ask for an action, and
what an action touches.
-/

namespace GraphPrograms

inductive Action where
  | rest
  | quit
  | submit
  | skip
  | undo
  | generate
  | edit (change : DraftEdit)
deriving DecidableEq, Repr

namespace Action

/-- What a character asks for together with the control key. -/
def ofChord : Char → Action
  | 'c' => .quit
  | 'n' => .skip
  | 'b' => .undo
  | 'l' => .generate
  | 'o' => .submit
  | 'w' => .edit .deleteWord
  | 'u' => .edit .clear
  | _ => .rest

/-- What a key asks for without the control key. -/
def ofKey (alt : Bool) : Key → Action
  | .escape => .quit
  | .enter => .submit
  | .backspace => .edit .deleteBack
  | .delete => .edit .deleteForward
  | .left => .edit .left
  | .right => .edit .right
  | .home => .edit .home
  | .toEnd => .edit .toEnd
  | .char character => if alt then .rest else .edit (.insertChar character)
  | .other => .rest

/-- The actions that may move the session. -/
def Moving (action : Action) : Prop := action = .submit ∨ action = .skip ∨ action = .undo

theorem moving_ofChord {character : Char} (moving : (ofChord character).Moving) :
    character ∈ ['o', 'n', 'b'] := by
  revert moving
  unfold ofChord
  split <;> simp [Moving]

theorem ofChord_eq_generate {character : Char} (generates : ofChord character = .generate) :
    character = 'l' := by
  revert generates
  unfold ofChord
  split <;> simp

theorem ofChord_eq_quit {character : Char} (quits : ofChord character = .quit) :
    character = 'c' := by
  revert quits
  unfold ofChord
  split <;> simp

theorem ofChord_eq_edit {character : Char} {change : DraftEdit}
    (edits : ofChord character = .edit change) : change = .deleteWord ∨ change = .clear := by
  revert edits
  unfold ofChord
  split <;> simp +contextual [eq_comm]

/-- Without the control key only two keys do anything but edit. -/
theorem ofKey_cases (alt : Bool) (key : Key) :
    key = .enter ∧ ofKey alt key = .submit ∨ key = .escape ∧ ofKey alt key = .quit ∨
      ofKey alt key = .rest ∨ ∃ change, ofKey alt key = .edit change := by
  cases key <;> cases alt <;> simp [ofKey]

end Action

namespace Event

/-- A key that goes down or repeats, with the control key or without it; others may be held, too. -/
def Strikes (event : Event) (control : Bool) (key : Key) : Prop :=
  ∃ press, event = .key press ∧ press.stroke ≠ .up ∧ press.control = control ∧ press.key = key

/-- Events that nothing is to come of. -/
inductive Idle : Event → Prop where
  | released {press : KeyPress} (up : press.stroke = .up) : Idle (.key press)
  | resize : Idle .resize
  | focusGained : Idle .focusGained
  | focusLost : Idle .focusLost
  | mouse : Idle .mouse

/-- Events for the draft: pasted texts, and keys that are neither chords nor leave nor submit. -/
inductive Edits : Event → Prop where
  | key {press : KeyPress} (plain : press.control = false) (stays : press.key ≠ .escape)
      (keeps : press.key ≠ .enter) : Edits (.key press)
  | paste (text : Text) : Edits (.paste text)

/-- Events that may move the session. -/
def Moves (event : Event) : Prop :=
  event.Strikes false .enter ∨ ∃ letter ∈ ['o', 'n', 'b'], event.Strikes true (.char letter)

def action : Event → Action
  | .key press =>
      if press.stroke = .up then .rest
      else if press.control then
        match press.key with
        | .char character => .ofChord character
        | _ => .rest
      else .ofKey press.alt press.key
  | .paste text => .edit (.insert text)
  | _ => .rest

/-- Where an event comes from that asks for something. -/
inductive Source (event : Event) : Prop where
  | chord (character : Char) (struck : event.Strikes true (.char character))
      (asked : event.action = .ofChord character)
  | key (alt : Bool) (key : Key) (struck : event.Strikes false key)
      (asked : event.action = .ofKey alt key)
  | paste (text : Text) (pasted : event = .paste text)

theorem source_or_rest (event : Event) : event.Source ∨ event.action = .rest := by
  cases event with
  | key press =>
      by_cases up : press.stroke = .up
      · exact .inr (by simp only [action, up, if_true])
      · cases control : press.control with
        | false =>
            refine .inl (.key press.alt press.key ⟨press, rfl, up, control, rfl⟩ ?_)
            simp [action, up, control]
        | true =>
            cases pressed : press.key with
            | char character =>
                refine .inl (.chord character ⟨press, rfl, up, control, pressed⟩ ?_)
                simp [action, up, control, pressed]
            | _ => exact .inr (by simp [action, up, control, pressed])
  | paste text => exact .inl (.paste text rfl)
  | _ => exact .inr rfl

theorem action_of_chord {event : Event} {character : Char}
    (struck : event.Strikes true (.char character)) : event.action = .ofChord character := by
  obtain ⟨press, rfl, held, control, key⟩ := struck
  simp [action, held, control, key]

theorem action_of_key {event : Event} {key : Key} (struck : event.Strikes false key) :
    ∃ alt, event.action = .ofKey alt key := by
  obtain ⟨press, rfl, held, control, rfl⟩ := struck
  exact ⟨press.alt, by simp [action, held, control]⟩

/-- Whatever is asked for beside edits comes from a chord, from the enter key or from the escape
key. -/
theorem struck_of_action {event : Event} {action : Action} (asked : event.action = action)
    (active : action ≠ .rest) (other : ∀ change, action ≠ .edit change) :
    (∃ character, event.Strikes true (.char character) ∧ Action.ofChord character = action) ∨
      event.Strikes false .enter ∧ action = .submit ∨
      event.Strikes false .escape ∧ action = .quit := by
  subst asked
  rcases event.source_or_rest with source | rest
  · cases source with
    | chord character struck asked => exact .inl ⟨character, struck, asked.symm⟩
    | key alt key struck asked =>
        rcases Action.ofKey_cases alt key with
          ⟨rfl, submits⟩ | ⟨rfl, quits⟩ | rests | ⟨change, edits⟩
        · exact .inr (.inl ⟨struck, asked.trans submits⟩)
        · exact .inr (.inr ⟨struck, asked.trans quits⟩)
        · exact absurd (asked.trans rests) active
        · exact absurd (asked.trans edits) (other change)
    | paste text pasted =>
        subst pasted
        exact absurd rfl (other (.insert text))
  · exact absurd rest active

theorem moves_of_moving {event : Event} (moving : event.action.Moving) : event.Moves := by
  have active : event.action ≠ .rest := by rcases moving with same | same | same <;> simp [same]
  have other : ∀ change, event.action ≠ .edit change := by
    rcases moving with same | same | same <;> simp [same]
  rcases struck_of_action rfl active other with
    ⟨character, struck, asked⟩ | ⟨enter, _⟩ | ⟨_, quits⟩
  · exact .inr ⟨character, Action.moving_ofChord (asked.symm ▸ moving), struck⟩
  · exact .inl enter
  · simp [quits, Action.Moving] at moving

theorem strikes_of_generate {event : Event} (generates : event.action = .generate) :
    event.Strikes true (.char 'l') := by
  rcases struck_of_action generates (by simp) (by simp) with
    ⟨character, struck, asked⟩ | ⟨_, submits⟩ | ⟨_, quits⟩
  · exact Action.ofChord_eq_generate asked ▸ struck
  · cases submits
  · cases quits

theorem action_eq_quit_iff {event : Event} :
    event.action = .quit ↔ event.Strikes true (.char 'c') ∨ event.Strikes false .escape := by
  constructor
  · intro quits
    rcases struck_of_action quits (by simp) (by simp) with
      ⟨character, struck, asked⟩ | ⟨_, submits⟩ | ⟨escape, _⟩
    · exact .inl (Action.ofChord_eq_quit asked ▸ struck)
    · cases submits
    · exact .inr escape
  · rintro (chord | key)
    · exact action_of_chord chord
    · obtain ⟨alt, asked⟩ := action_of_key key
      exact asked

theorem Idle.action_eq {event : Event} (idle : event.Idle) : event.action = .rest := by
  cases idle with
  | released up => simp only [action, up, if_true]
  | _ => rfl

theorem Edits.action_cases {event : Event} (edits : event.Edits) :
    event.action = .rest ∨ ∃ change, event.action = .edit change := by
  cases edits with
  | paste text => exact .inr ⟨.insert text, rfl⟩
  | @key press plain stays keeps =>
      by_cases up : press.stroke = .up
      · exact .inl (by simp only [action, up, if_true])
      · have asked : action (.key press) = .ofKey press.alt press.key := by simp [action, up, plain]
        rw [asked]
        rcases Action.ofKey_cases press.alt press.key with ⟨enter, _⟩ | ⟨escape, _⟩ | edits
        · exact absurd enter keeps
        · exact absurd escape stays
        · exact edits

/-- With the control key held nothing is entered. -/
theorem action_of_control {press : KeyPress} (control : press.control = true) {change : DraftEdit}
    (edits : action (.key press) = .edit change) : change = .deleteWord ∨ change = .clear := by
  rcases source_or_rest (.key press) with source | rest
  · cases source with
    | chord character struck asked => exact Action.ofChord_eq_edit (asked ▸ edits)
    | key alt key struck asked =>
        obtain ⟨_, ⟨rfl⟩, _, plain, _⟩ := struck
        simp [plain] at control
    | paste text pasted => cases pasted
  · simp [rest] at edits

end Event

namespace Review

variable {review : Review} {disk : Disk}

/-- What an action makes of a review and of the disk. -/
def perform (review : Review) (disk : Disk) : Action → Review × Disk
  | .rest => (review, disk)
  | .quit => (review.quit, disk)
  | .submit => (review.submit, disk)
  | .skip => (review.skip, disk)
  | .undo => (review.undo, disk)
  | .generate => ((review.generate disk).1, (review.generate disk).2.1)
  | .edit change => (review.edit (·.apply change), disk)

theorem chord_eq (review : Review) (disk : Disk) (character : Char) :
    review.chord disk character = review.perform disk (.ofChord character) := by
  unfold chord
  split
  case h_8 => simp only [Action.ofChord, perform]
  all_goals rfl

theorem press_eq (review : Review) (disk : Disk) (alt : Bool) (key : Key) :
    (review.press alt key, disk) = review.perform disk (.ofKey alt key) := by
  cases key <;> cases alt <;> rfl

theorem handle_eq (review : Review) (disk : Disk) (event : Event) :
    review.handle disk event = review.perform disk event.action := by
  cases event with
  | key press =>
      simp only [handle, Event.action]
      split
      · rfl
      · split
        · cases press.key with
          | char character => exact chord_eq review disk character
          | _ => rfl
        · exact press_eq review disk _ _
  | _ => rfl

theorem generate_eq (review : Review) (disk : Disk) :
    ∃ status?, (review.generate disk).1 = { review with status? := status? } := by
  simp only [generate]
  split
  · exact ⟨_, rfl⟩
  · split <;> exact ⟨_, rfl⟩

/-- A try to move the session: refused with a word, or made with a draft of what was recorded for
the equation it leads to. -/
inductive Tries (review : Review) : Review → Prop where
  | refused (status : Status) : Tries review { review with status? := some status }
  | made (session : Session)
      (recorded : session.currentColor? =
        { review.session with cursor := session.cursor }.currentColor?) :
      Tries review (review.moved session)

theorem tries_refuse (review : Review) (violation : Violation) :
    review.Tries (review.refuse violation) :=
  .refused _

theorem skip_tries (review : Review) : review.Tries review.skip := by
  unfold skip Session.skip
  split
  · exact .made _ rfl
  · exact review.tries_refuse _

theorem undo_tries (review : Review) : review.Tries review.undo := by
  unfold undo Session.undo
  split
  · exact review.tries_refuse _
  · exact .made _ rfl

theorem submit_tries (review : Review) : review.Tries review.submit := by
  unfold submit
  split
  · exact review.tries_refuse _
  · rename_i active
    cases review.policy.check review.draft.text with
    | error refusal => exact .refused _
    | ok accepted =>
        simp only [submit_of_not_isDone (Bool.eq_false_of_not_eq_true active), attempt]
        -- The color that has just been given is behind the cursor.
        exact .made _ (Assignment.get?_set_of_ne (Nat.ne_of_lt (Nat.lt_succ_self _)) _)

theorem Tries.quitting_eq {after : Review} (tries : review.Tries after) :
    after.quitting = review.quitting := by
  cases tries with
  | refused status => rfl
  | made session recorded =>
      unfold moved
      split <;> rfl

theorem Tries.draft_eq {after : Review} (tries : review.Tries after) :
    after.draft = review.draft ∨
      after.draft = prefilled { review.session with cursor := after.session.cursor } := by
  cases tries with
  | refused status => exact .inl rfl
  | made session recorded =>
      rw [draft_moved, session_moved]
      exact .inr (by rw [prefilled, prefilled, recorded])

theorem perform_tries {action : Action} (moving : action.Moving) :
    (review.perform disk action).2 = disk ∧ review.Tries (review.perform disk action).1 := by
  rcases moving with rfl | rfl | rfl
  · exact ⟨rfl, review.submit_tries⟩
  · exact ⟨rfl, review.skip_tries⟩
  · exact ⟨rfl, review.undo_tries⟩

theorem perform_disk {action : Action} (other : action ≠ .generate) :
    (review.perform disk action).2 = disk := by
  cases action with
  | generate => exact absurd rfl other
  | _ => rfl

theorem perform_session {action : Action} (other : ¬ action.Moving) :
    (review.perform disk action).1.session = review.session := by
  cases action with
  | submit => exact absurd (.inl rfl) other
  | skip => exact absurd (.inr (.inl rfl)) other
  | undo => exact absurd (.inr (.inr rfl)) other
  | generate =>
      obtain ⟨status?, same⟩ := review.generate_eq disk
      simp only [perform, same]
  | _ => rfl

theorem perform_draft {action : Action} (other : ¬ action.Moving)
    (deletes : ∀ change, action = .edit change → change = .deleteWord ∨ change = .clear) :
    (review.perform disk action).1.draft.text.Sublist review.draft.text := by
  cases action with
  | submit => exact absurd (.inl rfl) other
  | skip => exact absurd (.inr (.inl rfl)) other
  | undo => exact absurd (.inr (.inr rfl)) other
  | rest | quit => exact List.Sublist.refl _
  | generate =>
      obtain ⟨status?, same⟩ := review.generate_eq disk
      simp only [perform, same, List.Sublist.refl]
  | edit change =>
      rcases deletes change rfl with rfl | rfl
      · exact review.draft.text_deleteWord_sublist
      · exact List.nil_sublist _

theorem quitting_perform (action : Action) :
    (review.perform disk action).1.quitting = true ↔
      review.quitting = true ∨ action = .quit := by
  cases action with
  | submit => simp [perform, review.submit_tries.quitting_eq]
  | skip => simp [perform, review.skip_tries.quitting_eq]
  | undo => simp [perform, review.undo_tries.quitting_eq]
  | generate =>
      obtain ⟨status?, same⟩ := review.generate_eq disk
      simp [perform, same]
  | rest | quit | edit => simp [perform, quit, edit]

/-- What an event may do to a review and to the disk. -/
structure Confines (event : Event) (before after : Review × Disk) : Prop where
  disk_eq : ¬ event.Strikes true (.char 'l') → after.2 = before.2
  session_eq : ¬ event.Moves → after.1.session = before.1.session
  idle : event.Idle → after = before
  edits : event.Edits → ∃ draft, after = ({ before.1 with draft := draft }, before.2)
  /-- With the control key held a draft only loses characters, unless the session moves: then it may
  be what was recorded for another equation. -/
  control : ∀ press, event = .key press → press.control = true →
    after.1.draft.text.Sublist before.1.draft.text ∨ event.Moves ∧
      after.1.draft = prefilled { before.1.session with cursor := after.1.session.cursor }
  generates : event.Strikes true (.char 'l') →
    ∃ status?, after.1 = { before.1 with status? := status? }
  quits : after.1.quitting = true ↔ before.1.quitting = true ∨
    event.Strikes true (.char 'c') ∨ event.Strikes false .escape

theorem handle_confines (review : Review) (disk : Disk) (event : Event) :
    Confines event (review, disk) (review.handle disk event) := by
  rw [handle_eq]
  constructor
  case disk_eq =>
    exact fun other => perform_disk fun generates => other (Event.strikes_of_generate generates)
  case session_eq =>
    exact fun other => perform_session fun moving => other (Event.moves_of_moving moving)
  case idle =>
    intro idle
    rw [idle.action_eq]
    rfl
  case edits =>
    intro edits
    rcases edits.action_cases with rests | ⟨change, edits⟩
    · exact ⟨review.draft, by rw [rests]; rfl⟩
    · exact ⟨review.draft.apply change, by rw [edits]; rfl⟩
  case control =>
    rintro press rfl control
    by_cases moving : (Event.key press).action.Moving
    · rcases (perform_tries moving).2.draft_eq with kept | prefilled
      · exact .inl (by rw [kept])
      · exact .inr ⟨Event.moves_of_moving moving, prefilled⟩
    · exact .inl (perform_draft moving fun change => Event.action_of_control control)
  case generates =>
    intro struck
    rw [Event.action_of_chord struck]
    exact review.generate_eq disk
  case quits => rw [quitting_perform, Event.action_eq_quit_iff]

/-- Every event has no effect but its own, and a review that is to be left is so after whatever
comes then. -/
theorem events_have_their_effects_only (review : Review) (disk : Disk) (event : Event) :
    let after := review.handle disk event
    Confines event (review, disk) after ∧
      ∀ events, after.1.quitting = true → (after.1.run after.2 events).1.quitting = true := by
  refine ⟨handle_confines review disk event, fun events quitting => ?_⟩
  refine run_induction (motive := fun review => review.quitting = true) ?_ quitting _ events
  exact fun review disk event quitting =>
    (handle_confines review disk event).quits.mpr (.inl quitting)

/-- The escape key leaves for good, and a skip to an equation with a color takes that for the
draft. -/
theorem events_have_their_effects_only_escaped :
    let session : Session :=
      ⟨[⟨['x'], []⟩, ⟨['2'], []⟩], ⟨[some ⟨"BLUE".toList⟩, some ⟨"RED".toList⟩]⟩, 0⟩
    let review : Review := { session := session, draft := prefilled session }
    let disk : Disk := ⟨.folder [], []⟩
    let skipped := review.handle disk (.key { key := .char 'n', control := true })
    let escaped := review.handle disk (.key { key := .escape })
    (skipped.2 = disk ∧ skipped.1.quitting = false ∧ skipped.1.draft = .ofText "RED".toList) ∧
      ∀ events, (escaped.1.run escaped.2 events).1.quitting = true := by
  intro session review disk skipped escaped
  refine ⟨?_, fun events => (events_have_their_effects_only review disk _).2 events rfl⟩
  have skips := (events_have_their_effects_only review disk
    (.key { key := .char 'n', control := true })).1
  have struck : ∀ {control : Bool} {key : Key},
      (Event.key { key := .char 'n', control := true }).Strikes control key →
        key = .char 'n' := by
    rintro _ _ ⟨_, same, _, _, rfl⟩
    cases same
    rfl
  have stays : skipped.1.quitting ≠ true := fun quitting => by
    rcases skips.quits.mp quitting with before | chord | escape
    · contradiction
    · cases struck chord
    · cases struck escape
  -- The new draft is no part of the old one, so it is what was recorded.
  obtain ⟨_, recorded⟩ := (skips.control _ rfl rfl).resolve_left (by decide +kernel)
  have next : skipped.1.session.cursor = 1 := by decide +kernel
  refine ⟨skips.disk_eq fun chord => ?_, Bool.eq_false_of_not_eq_true stays, ?_⟩
  · cases struck chord
  · rw [recorded, next]
    rfl

end Review

end GraphPrograms
