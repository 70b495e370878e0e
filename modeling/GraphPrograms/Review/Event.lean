import GraphPrograms.Review.Basic

/-!
What the keyboard does to a review.

Plain keys edit the draft and control chords move the session.  A key counts when it goes down and
while it repeats, not when it comes up.
-/

namespace GraphPrograms

inductive Key where
  | char (character : Char)
  | escape
  | enter
  | backspace
  | delete
  | left
  | right
  | home
  | toEnd
  | other
deriving DecidableEq, Repr

/-- What happens to a key. -/
inductive Stroke where
  | down
  | again
  | up
deriving DecidableEq, Repr

/-- A key with what happens to it and the keys held beside it. -/
structure KeyPress where
  key : Key
  stroke : Stroke := .down
  control : Bool := false
  alt : Bool := false
deriving DecidableEq, Repr

/-- What a terminal reports. -/
inductive Event where
  | key (press : KeyPress)
  | paste (text : Text)
  | resize
  | focusGained
  | focusLost
  | mouse
deriving DecidableEq, Repr

namespace Review

/-- What a character does together with the control key. -/
def chord (review : Review) (disk : Disk) : Char → Review × Disk
  | 'c' => (review.quit, disk)
  | 'n' => (review.skip, disk)
  | 'b' => (review.undo, disk)
  | 'l' =>
      let result := review.generate disk
      (result.1, result.2.1)
  | 'o' => (review.submit, disk)
  | 'w' => (review.edit Draft.deleteWord, disk)
  | 'u' => (review.edit Draft.clear, disk)
  | _ => (review, disk)

/-- What a key does without the control key. -/
def press (review : Review) (alt : Bool) : Key → Review
  | .escape => review.quit
  | .enter => review.submit
  | .backspace => review.edit Draft.deleteBack
  | .delete => review.edit Draft.deleteForward
  | .left => review.edit Draft.left
  | .right => review.edit Draft.right
  | .home => review.edit Draft.home
  | .toEnd => review.edit Draft.toEnd
  | .char character => if alt then review else review.edit (Draft.insertChar · character)
  | .other => review

/-- The review and the disk after an event. -/
def handle (review : Review) (disk : Disk) : Event → Review × Disk
  | .key press =>
      if press.stroke = .up then (review, disk)
      else if press.control then
        match press.key with
        | .char character => review.chord disk character
        | _ => (review, disk)
      else (review.press press.alt press.key, disk)
  | .paste text => (review.edit (Draft.insert · text), disk)
  | _ => (review, disk)

end Review

end GraphPrograms
