import GraphPrograms.Draft
import GraphPrograms.Session
import GraphPrograms.Settings
import GraphPrograms.Storage.Basic
import GraphPrograms.Text.Case

/-!
A review: a session with the draft of the next color and a line that tells what happened last.

Every step either moves the session or says why it does not, and then leaves session and draft as
they were.  After a move the draft is the color that the equation now under the cursor has
already, so that going back and submitting again keeps it.
-/

namespace GraphPrograms

inductive StatusKind where
  | info
  | success
  | warning
  | error
deriving DecidableEq, Repr

/-- A message to the user; its text is not known if it names a temporary file. -/
structure Status where
  kind : StatusKind
  text? : Option Text
deriving DecidableEq, Repr

structure Review where
  session : Session
  draft : Draft := {}
  status? : Option Status := none
  layout : OutputLayout := {}
  policy : ColorPolicy := .any
  look : Look := {}
  source? : Option Path := none
  rejected : Nat := 0
  quitting : Bool := false
deriving DecidableEq, Repr

namespace Review

def notify (review : Review) (kind : StatusKind) (text : Text) : Review :=
  { review with status? := some ⟨kind, some text⟩ }

def clearStatus (review : Review) : Review := { review with status? := none }

def quit (review : Review) : Review := { review with quitting := true }

/-- The review of a session at its start. -/
def start (session : Session) (settings : Settings) : Review :=
  let review : Review := {
    session := session
    layout := settings.layout
    policy := settings.policy
    look := settings.look }
  if session.total = 0 then review.notify .warning "No valid equations in input".toList else review

/-- The word for a number of things, which is longer by an `s` unless there is one of them. -/
def plural (count : Nat) (noun : String) : Text :=
  noun.toList ++ (if count = 1 then [] else ['s'])

/-- Tells the review where its equations came from, and how many lines were rejected. -/
def fromSource (review : Review) (source : Path) (rejected : Nat) : Review :=
  let known := { review with source? := some source, rejected := rejected }
  if 0 < rejected ∧ review.status?.isNone then
    known.notify .info (Text.ofNat rejected ++ [' '] ++ plural rejected "line" ++
      " did not match and were saved as rejects".toList)
  else known

def isDone (review : Review) : Bool := review.session.isDone

/-- A text with its first letter in upper case. -/
def capitalized : Text → Text
  | [] => []
  | first :: rest => Text.upperChar first ++ rest

/-- Says why a step is not possible. -/
def refuse (review : Review) (violation : Violation) : Review :=
  review.notify .warning (capitalized violation.message)

/-- The draft to start from: the color that the equation under the cursor has. -/
def prefilled (session : Session) : Draft :=
  match session.currentColor? with
  | some color => .ofText color.token
  | none => {}

/-- The review after the session has moved. -/
def moved (review : Review) (session : Session) : Review :=
  let settled := { review with session := session, draft := prefilled session, status? := none }
  if session.isDone then settled.notify .success "All equations processed!".toList else settled

def attempt (review : Review) : Except Violation Session → Review
  | .ok session => review.moved session
  | .error violation => review.refuse violation

/-- Gives the equation under the cursor the drafted color, if the policy allows it. -/
def submit (review : Review) : Review :=
  if review.isDone then review.refuse .sessionComplete
  else
    match review.policy.check review.draft.text with
    | .error refusal => review.notify .error refusal.message
    | .ok _ =>
        { review with draft := review.draft.clear }.attempt
          (review.session.submit review.draft.text)

def skip (review : Review) : Review := review.attempt review.session.skip

def undo (review : Review) : Review := review.attempt review.session.undo

/-- Writes all programs and gives the paths of those written: none if there is nothing to write or
if writing fails, and the status tells which. -/
def generate (review : Review) (disk : Disk) : Review × Disk × List Path :=
  let programs := review.session.programs
  if programs.isEmpty then
    (review.notify .warning "No equations to generate".toList, disk, [])
  else
    match Storage.writePrograms disk review.layout programs with
    | (written, .ok paths) =>
        (review.notify .success ("Created ".toList ++ Text.ofNat paths.length ++
          " program ".toList ++ plural paths.length "file" ++ " in ".toList ++
          review.layout.folder.text), written, paths)
    | (failed, .error error) =>
        ({ review with status? := some ⟨.error, error.message?⟩ }, failed, [])

/-- Edits the draft. -/
def edit (review : Review) (change : Draft → Draft) : Review :=
  { review with draft := change review.draft }

end Review

end GraphPrograms
