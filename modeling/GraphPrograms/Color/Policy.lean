import GraphPrograms.Color.Token

/-!
Which texts may be typed for a color.

Without a range every text will do.  A range asks for a number in it, written with ASCII digits
and at most a plus sign; numbers past the 32-bit ones are no numbers to it.
-/

namespace GraphPrograms

inductive ColorPolicy where
  | any
  | numeric (low high : Nat)
deriving DecidableEq, Repr

/-- Why a text is refused. -/
inductive ColorRefusal where
  | notNumeric (low high : Nat)
  | outOfRange (value low high : Nat)
deriving DecidableEq, Repr

def ColorRefusal.message : ColorRefusal → Text
  | .notNumeric low high =>
      "color must be a number from ".toList ++ Text.ofNat low ++ " to ".toList ++ Text.ofNat high
  | .outOfRange value low high =>
      "color ".toList ++ Text.ofNat value ++ " is outside ".toList ++ Text.ofNat low ++ ['-'] ++
        Text.ofNat high

namespace ColorPolicy

/-- The numbers between two bounds, given in either order. -/
def between (first second : Nat) : ColorPolicy := numeric (min first second) (max first second)

/-- The largest number that is read. -/
def largest : Nat := 4294967295

/-- The value of a digit behind the digits of `value`. -/
def pushDigit (value : Nat) (digit : Char) : Nat := 10 * value + (digit.toNat - '0'.toNat)

/-- The number that a text of digits spells, with a plus sign before it or not. -/
def number? (text : Text) : Option Nat :=
  let digits := match text with
    | '+' :: rest => rest
    | _ => text
  if digits.isEmpty || !digits.all Char.isDigit then none
  else
    let value := digits.foldl pushDigit 0
    if value ≤ largest then some value else none

/-- Checks a typed text; blanks around a number do not matter. -/
def check (policy : ColorPolicy) (text : Text) : Except ColorRefusal Unit :=
  match policy with
  | any => .ok ()
  | numeric low high =>
      match number? (Text.trim text) with
      | none => .error (.notNumeric low high)
      | some value =>
          if low ≤ value ∧ value ≤ high then .ok () else .error (.outOfRange value low high)

/-- A short reminder of what may be typed. -/
def hint : ColorPolicy → Text
  | any => "name or code, blank for BLACK".toList
  | numeric low high => Text.ofNat low ++ ['-'] ++ Text.ofNat high

end ColorPolicy

end GraphPrograms
