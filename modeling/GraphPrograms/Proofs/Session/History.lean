import GraphPrograms.Command.Basic
import Mathlib.Data.Finset.Card

/-!
A session is what its moves say: the cursor is counted, and the color of an equation is the one
submitted there last.

`submissions` reads the moves without a session.  `run_eq` shows that a session only ever does
two things with them, counting and recording, and all else follows from what recording a list of
submissions does to one index.
-/

namespace GraphPrograms

inductive Move where
  | submit (text : Text)
  | skip
  | undo
deriving DecidableEq, Repr

structure Submission where
  index : Nat
  text : Text
deriving DecidableEq, Repr

namespace Move

/-- Where a move takes a cursor among `total` equations, or why it may not. -/
def outcome (total cursor : Nat) : Move → Except Violation Nat
  | undo => if 0 < cursor then .ok (cursor - 1) else .error .atFirstEquation
  | _ => if cursor < total then .ok (cursor + 1) else .error .sessionComplete

/-- The cursor after a move; a move that may not be made leaves it. -/
def next (total cursor : Nat) (move : Move) : Nat :=
  match move.outcome total cursor with
  | .ok cursor => cursor
  | .error _ => cursor

/-- What a move submits with the cursor at a place. -/
def submission? (total cursor : Nat) : Move → Option Submission
  | submit text => if cursor < total then some ⟨cursor, text⟩ else none
  | _ => none

theorem eq_submit {total cursor : Nat} {move : Move} {submission : Submission}
    (submitted : move.submission? total cursor = some submission) :
    move = .submit submission.text := by
  cases move with
  | submit text =>
      simp only [submission?] at submitted
      split at submitted
      · cases submitted
        rfl
      · contradiction
  | skip | undo => simp [submission?] at submitted

theorem outcome_le {total cursor next : Nat} {move : Move} (within : cursor ≤ total)
    (made : move.outcome total cursor = .ok next) : next ≤ total := by
  cases move with
  | submit text | skip | undo =>
      simp only [outcome] at made
      split at made
      · cases made
        omega
      · contradiction

end Move

def cursorAfter (total : Nat) (cursor : Nat) (moves : List Move) : Nat :=
  moves.foldl (Move.next total) cursor

def submissions (total : Nat) : Nat → List Move → List Submission
  | _, [] => []
  | cursor, move :: moves =>
      (move.submission? total cursor).toList ++ submissions total (move.next total cursor) moves

/-- The text submitted last for the equation at an index. -/
def lastText (submitted : List Submission) (index : Nat) : Option Text :=
  (submitted.filter (·.index = index)).getLast?.map Submission.text

def submittedIndexes (submitted : List Submission) : Finset Nat :=
  (submitted.map Submission.index).toFinset

namespace Session

def attempt (session : Session) : Move → Except Violation Session
  | .submit text => session.submit text
  | .skip => session.skip
  | .undo => session.undo

/-- The session after a move; a move that is refused leaves it. -/
def after (session : Session) (move : Move) : Session :=
  match session.attempt move with
  | .ok next => next
  | .error _ => session

def run (session : Session) (moves : List Move) : Session := moves.foldl after session

end Session

namespace Assignment

def record (assignment : Assignment) (submitted : List Submission) : Assignment :=
  submitted.foldl (fun assignment submission =>
    assignment.set submission.index (.ofText submission.text)) assignment

theorem record_append (assignment : Assignment) (earlier later : List Submission) :
    assignment.record (earlier ++ later) = (assignment.record earlier).record later :=
  List.foldl_append

@[simp] theorem size_record (assignment : Assignment) (submitted : List Submission) :
    (assignment.record submitted).size = assignment.size := by
  induction submitted generalizing assignment with
  | nil => rfl
  | cons first rest ih => exact (ih _).trans (size_set assignment first.index (.ofText first.text))

/-- Recording leaves at every index the color submitted there last. -/
theorem get?_record {assignment : Assignment} {submitted : List Submission}
    (inside : ∀ submission ∈ submitted, submission.index < assignment.size) (index : Nat) :
    (assignment.record submitted).get? index =
      ((lastText submitted index).map Color.ofText).or (assignment.get? index) := by
  induction submitted using List.reverseRecOn with
  | nil => rfl
  | append_singleton earlier last ih =>
      have before := ih fun submission member => inside submission (List.mem_append_left _ member)
      have bound : last.index < (assignment.record earlier).size := by
        rw [size_record]
        exact inside last (by simp)
      rw [record_append]
      change ((assignment.record earlier).set last.index (.ofText last.text)).get? index = _
      by_cases here : last.index = index
      · subst here
        rw [get?_set_self bound]
        simp [lastText]
      · rw [get?_set_of_ne here, before]
        simp [lastText, here]

theorem eq_or_get?_of_get?_set {assignment : Assignment} {index other : Nat} {color found : Color}
    (colored : (assignment.set index color).get? other = some found) :
    found = color ∨ assignment.get? other = some found := by
  by_cases here : index = other
  · subst here
    by_cases inside : index < assignment.size
    · rw [get?_set_self inside, Option.some.injEq] at colored
      exact .inl colored.symm
    · rw [set, List.set_eq_of_length_le (Nat.le_of_not_lt inside)] at colored
      exact .inr colored
  · rw [get?_set_of_ne here] at colored
    exact .inr colored

theorem ext_get? {left right : Assignment} (size : left.size = right.size)
    (same : ∀ index, left.get? index = right.get? index) : left = right := by
  obtain ⟨leftColors⟩ := left
  obtain ⟨rightColors⟩ := right
  simp only [Assignment.size] at size
  simp only [get?] at same
  congr 1
  apply List.ext_getElem size
  intro index leftInside rightInside
  simpa [leftInside, rightInside] using same index

theorem assigned_eq_card (assignment : Assignment) :
    assignment.assigned =
      ((Finset.range assignment.size).filter fun index => (assignment.get? index).isSome).card := by
  have listed : assignment.colors = (List.range assignment.size).map assignment.get? := by
    apply List.ext_getElem (by simp [Assignment.size])
    intro index inside _
    simp [get?, inside]
  calc assignment.assigned
      = (List.range assignment.size).countP (Option.isSome ∘ assignment.get?) := by
        rw [assigned, listed, List.countP_map]
    _ = ((List.range assignment.size).filter fun index => (assignment.get? index).isSome).length :=
        List.countP_eq_length_filter
    _ = ((List.range assignment.size).filter fun index =>
          (assignment.get? index).isSome).toFinset.card :=
        (List.toFinset_card_of_nodup (List.nodup_range.filter _)).symm
    _ = _ := by
        congr 1
        ext index
        simp

end Assignment

theorem index_lt_of_mem_submissions {total cursor : Nat} {moves : List Move}
    {submission : Submission} (member : submission ∈ submissions total cursor moves) :
    submission.index < total := by
  induction moves generalizing cursor with
  | nil => simp [submissions] at member
  | cons move moves ih =>
      rcases List.mem_append.mp member with first | rest
      · cases move with
        | submit text =>
            simp only [Move.submission?] at first
            split at first
            · simp only [Option.toList_some, List.mem_singleton] at first
              subst first
              assumption
            · simp at first
        | skip | undo => simp [Move.submission?] at first
      · exact ih rest

theorem submissions_eq_nil {moves : List Move} (none : ∀ text, .submit text ∉ moves)
    (total cursor : Nat) : submissions total cursor moves = [] := by
  induction moves generalizing cursor with
  | nil => rfl
  | cons move moves ih =>
      have rest := ih fun text member => none text (List.mem_cons_of_mem _ member)
      cases move with
      | submit text => exact absurd List.mem_cons_self (none text)
      | skip | undo => simp [submissions, Move.submission?, rest]

theorem mem_submittedIndexes_iff {submitted : List Submission} {index : Nat} :
    index ∈ submittedIndexes submitted ↔ (lastText submitted index).isSome := by
  simp [submittedIndexes, lastText]

namespace Session

variable {session : Session}

/-- Every move does the same two things: it counts and it records. -/
theorem attempt_eq (session : Session) (move : Move) :
    session.attempt move = (move.outcome session.total session.cursor).map fun cursor =>
      { session with
        assignment := session.assignment.record
          (move.submission? session.total session.cursor).toList
        cursor := cursor } := by
  cases move with
  | submit text =>
      simp only [attempt, submit, Move.outcome, Move.submission?]
      split <;> rfl
  | skip =>
      simp only [attempt, skip, Move.outcome]
      split <;> rfl
  | undo =>
      simp only [attempt, undo, Move.outcome, Nat.pos_iff_ne_zero]
      split <;> simp_all [Except.map, Move.submission?, Assignment.record]

theorem attempt_eq_ok_iff {next : Session} {move : Move} :
    session.attempt move = .ok next ↔
      ∃ cursor, move.outcome session.total session.cursor = .ok cursor ∧ next =
        { session with
          assignment := session.assignment.record
            (move.submission? session.total session.cursor).toList
          cursor := cursor } := by
  rw [attempt_eq]
  cases move.outcome session.total session.cursor with
  | ok cursor => simp [Except.map, eq_comm]
  | error violation => simp [Except.map]

theorem equations_of_attempt {next : Session} {move : Move} (made : session.attempt move = .ok next) :
    next.equations = session.equations := by
  obtain ⟨cursor, _, rfl⟩ := attempt_eq_ok_iff.mp made
  rfl

/-- A color is there before a move or is the one that the move submits. -/
theorem get?_of_attempt {next : Session} {move : Move} {index : Nat} {color : Color}
    (made : session.attempt move = .ok next) (found : next.assignment.get? index = some color) :
    session.assignment.get? index = some color ∨
      ∃ text, move = .submit text ∧ color = .ofText text := by
  obtain ⟨cursor, _, rfl⟩ := attempt_eq_ok_iff.mp made
  cases submitted : move.submission? session.total session.cursor with
  | none =>
      rw [submitted] at found
      exact .inl found
  | some submission =>
      rw [submitted] at found
      rcases Assignment.eq_or_get?_of_get?_set found with same | before
      · exact .inr ⟨submission.text, Move.eq_submit submitted, same⟩
      · exact .inl before

theorem after_eq (session : Session) (move : Move) :
    session.after move =
      { session with
        assignment := session.assignment.record
          (move.submission? session.total session.cursor).toList
        cursor := move.next session.total session.cursor } := by
  rw [after, attempt_eq, Move.next]
  cases outcome : move.outcome session.total session.cursor with
  | ok cursor => rfl
  | error violation =>
      have silent : move.submission? session.total session.cursor = none := by
        cases move with
        | submit text =>
            simp only [Move.outcome] at outcome
            split at outcome
            · cases outcome
            · rename_i outside
              exact if_neg outside
        | skip | undo => rfl
      rw [silent]
      rfl

theorem run_eq (session : Session) (moves : List Move) :
    session.run moves =
      { session with
        assignment := session.assignment.record (submissions session.total session.cursor moves)
        cursor := cursorAfter session.total session.cursor moves } := by
  induction moves generalizing session with
  | nil => rfl
  | cons move moves ih =>
      change (session.after move).run moves = _
      rw [ih, after_eq]
      simp only [submissions, Assignment.record_append]
      rfl

theorem get?_run_ofEquations (equations : List Equation) (moves : List Move) (index : Nat) :
    ((ofEquations equations).run moves).assignment.get? index =
      (lastText (submissions equations.length 0 moves) index).map Color.ofText := by
  have inside : ∀ submission ∈ submissions equations.length 0 moves,
      submission.index < (Assignment.blank equations.length).size := fun submission member => by
    rw [Assignment.size_blank]
    exact index_lt_of_mem_submissions member
  rw [run_eq]
  exact (Assignment.get?_record inside index).trans (by simp)

theorem size_run_ofEquations (equations : List Equation) (moves : List Move) :
    ((ofEquations equations).run moves).assignment.size = equations.length := by
  rw [run_eq, Assignment.size_record]
  exact Assignment.size_blank equations.length

theorem assigned_run_ofEquations (equations : List Equation) (moves : List Move) :
    ((ofEquations equations).run moves).assignment.assigned =
      (submittedIndexes (submissions equations.length 0 moves)).card := by
  rw [Assignment.assigned_eq_card, size_run_ofEquations]
  congr 1
  ext index
  rw [Finset.mem_filter, get?_run_ofEquations, Option.isSome_map, ← mem_submittedIndexes_iff,
    Finset.mem_range]
  refine ⟨And.right, fun member => ⟨?_, member⟩⟩
  obtain ⟨submission, submitted, rfl⟩ := List.mem_map.mp (List.mem_toFinset.mp member)
  exact index_lt_of_mem_submissions submitted

/-- Only the last submissions count for the programs. -/
theorem programs_congr {equations : List Equation} {moves others : List Move}
    (same : ∀ index, lastText (submissions equations.length 0 others) index =
      lastText (submissions equations.length 0 moves) index) :
    ((ofEquations equations).run others).programs =
      ((ofEquations equations).run moves).programs := by
  have assignments : ((ofEquations equations).run others).assignment =
      ((ofEquations equations).run moves).assignment := by
    apply Assignment.ext_get?
    · rw [size_run_ofEquations, size_run_ofEquations]
    · intro index
      rw [get?_run_ofEquations, get?_run_ofEquations, same]
  rw [programs, programs, assignments, run_eq, run_eq]

end Session

/-- A conversion writes the programs of a session that nobody has touched. -/
theorem Command.convert_of_loadSheet {disk loaded : Disk} {settings : Settings} {sheet : Sheet}
    (load : loadSheet disk settings = (loaded, .ok sheet)) :
    let writing := Storage.writePrograms loaded settings.layout
      (Session.ofEquations sheet.equations).programs
    (convert disk settings).1 = writing.1 ∧
      (convert disk settings).2.map Conversion.written =
        writing.2.mapError (.ofStorage "writing program files".toList) := by
  simp only [convert, load]
  split <;> rename_i writing <;> simp [writing, Except.map, Except.mapError]

namespace Session

/-- A session of some equations after any moves: where its cursor is, which moves it refuses and
why, which colors it has, and which programs, all told by the moves alone. -/
theorem run_agrees_with_moves (equations : List Equation) (moves : List Move) :
    let session := (ofEquations equations).run moves
    let submitted := submissions equations.length 0 moves
    session.equations = equations ∧
    session.cursor = cursorAfter equations.length 0 moves ∧
    (∀ move, (session.attempt move).map cursor = move.outcome equations.length session.cursor) ∧
    (∀ move violation, session.attempt move = .error violation →
      (ofEquations equations).run (moves ++ [move]) = session) ∧
    (∀ index, session.assignment.get? index = (lastText submitted index).map Color.ofText) ∧
    session.assignment.assigned = (submittedIndexes submitted).card ∧
    (∀ others, (∀ index, lastText (submissions equations.length 0 others) index =
        lastText submitted index) →
      ((ofEquations equations).run others).programs = session.programs) ∧
    ((∀ text, .submit text ∉ moves) →
      session.programs = (ofEquations equations).programs ∧
      ∀ (disk loaded : Disk) (settings : Settings) (sheet : Sheet),
        Command.loadSheet disk settings = (loaded, .ok sheet) → sheet.equations = equations →
        (Command.convert disk settings).1 =
          (Storage.writePrograms loaded settings.layout session.programs).1 ∧
        (Command.convert disk settings).2.map Conversion.written =
          (Storage.writePrograms loaded settings.layout session.programs).2.mapError
            (.ofStorage "writing program files".toList)) := by
  intro session submitted
  have unchanged : session.equations = equations := by simp only [session, run_eq]; rfl
  refine ⟨unchanged, ?cursor, ?answers, ?refused, get?_run_ofEquations equations moves,
    assigned_run_ofEquations equations moves, fun others same => programs_congr same, ?untouched⟩
  case cursor => simp only [session, run_eq]; rfl
  case answers =>
    intro move
    rw [attempt_eq, total, unchanged]
    cases move.outcome equations.length session.cursor <;> rfl
  case refused =>
    intro move violation refused
    rw [run, List.foldl_append]
    change session.after move = session
    rw [after, refused]
  case untouched =>
    intro none
    have same : ∀ index, lastText (submissions equations.length 0 moves) index =
        lastText (submissions equations.length 0 []) index := by
      intro index
      rw [submissions_eq_nil none, submissions]
    have fresh : session.programs = (ofEquations equations).programs := programs_congr same
    refine ⟨fresh, fun disk loaded settings sheet load same => ?_⟩
    subst same
    rw [fresh]
    exact Command.convert_of_loadSheet load

/-- A color that is given twice after going back, a submission at the end that is refused, and a
conversion beside a session that was only looked through. -/
theorem run_agrees_with_moves_resubmitted :
    let equation : Equation := ⟨['x'], []⟩
    let changed := [Move.submit "red".toList, .undo, .submit "blue".toList, .submit "red".toList]
    let disk : Disk := { root := .folder [("in".toList, .file (Text.encode "y = x\n".toList))] }
    let settings : Settings :=
      { input := .ofString "in", rejects := .ofString "bad", plain := false, layout := {},
        policy := .any, look := {} }
    let looked := (ofEquations [equation]).run [.skip, .undo]
    ((ofEquations [equation]).run (changed ++ [.skip])) = (ofEquations [equation]).run changed ∧
    ((ofEquations [equation]).run [.submit "blue".toList]).programs =
      ((ofEquations [equation]).run changed).programs ∧
    Command.loadSheet disk settings = (disk, .ok ⟨[equation], []⟩) ∧
    (Command.convert disk settings).1 =
      (Storage.writePrograms disk settings.layout looked.programs).1 := by
  intro equation changed disk settings looked
  have load : Command.loadSheet disk settings = (disk, .ok ⟨[equation], []⟩) := by
    have text : disk.readText settings.input = .ok "y = x\n".toList := Disk.readText_of_read rfl
    rw [Command.loadSheet, Storage.load, Storage.readLines, text]
    rfl
  obtain ⟨_, _, _, refused, _, _, last, _⟩ := run_agrees_with_moves [equation] changed
  obtain ⟨_, _, _, _, _, _, _, untouched⟩ := run_agrees_with_moves [equation] [.skip, .undo]
  have silent : ∀ text, .submit text ∉ [Move.skip, .undo] := by simp
  have same : ∀ index, lastText (submissions 1 0 [.submit "blue".toList]) index =
      lastText (submissions 1 0 changed) index := by
    intro index
    change lastText [⟨0, "blue".toList⟩] index =
      lastText [⟨0, "red".toList⟩, ⟨0, "blue".toList⟩] index
    by_cases first : 0 = index <;> simp [lastText, first]
  exact ⟨refused .skip .sessionComplete rfl, last _ same, load,
    ((untouched silent).2 disk disk settings _ load rfl).1⟩

end Session

end GraphPrograms
