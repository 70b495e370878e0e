import GraphPrograms.Text.Blank

/-!
Two-sided constraints, `low <= X <= high`, and their form as a conjunction, which the calculator
understands: `low<=X and X<=high`.

A chain has numerals at both ends and one of the calculator's variables between them; blanks
around its parts do not matter.  Neither the numerals nor the variable contain a `<`, so the two
signs of a chain are its only ones.
-/

namespace GraphPrograms

/-- A constraint with a numeral on both sides of a variable. -/
structure Chain where
  low : Text
  letter : Char
  high : Text
deriving DecidableEq, Repr

namespace Chain

/-- A text without the sign it starts with, if it does. -/
def dropSign : Text → Text
  | '+' :: rest => rest
  | '-' :: rest => rest
  | text => text

/-- Digits with at most one point among them, and at least one digit. -/
def isUnsigned (text : Text) : Bool :=
  match text.takeWhile Char.isDigit, text.dropWhile Char.isDigit with
  | whole, [] => !whole.isEmpty
  | whole, '.' :: fraction => fraction.all Char.isDigit && !(whole.isEmpty && fraction.isEmpty)
  | _, _ => false

/-- A decimal numeral: an optional sign, then digits with at most one point. -/
def isNumeral (text : Text) : Bool := isUnsigned (dropSign text)

/-- The calculator's names of the two variables. -/
def isLetter (letter : Char) : Bool := letter == 'X' || letter == 'Y'

/-- The chain that a constraint spells, if it spells one. -/
def parse? (constraint : Text) : Option Chain :=
  match constraint.splitOn '<' with
  | [left, '=' :: middle, '=' :: right] =>
      match Text.trim middle with
      | [letter] =>
          if isNumeral (Text.trim left) && isLetter letter && isNumeral (Text.trim right) then
            some ⟨Text.trim left, letter, Text.trim right⟩
          else none
      | _ => none
  | _ => none

/-- The chain as two comparisons that both have to hold. -/
def conjunction (chain : Chain) : Text :=
  chain.low ++ "<=".toList ++ [chain.letter] ++ " and ".toList ++
    [chain.letter] ++ "<=".toList ++ chain.high

/-- A constraint with a chain made a conjunction; every other constraint stays as it is. -/
def conjoined (constraint : Text) : Text :=
  match parse? constraint with
  | some chain => chain.conjunction
  | none => constraint

end Chain

end GraphPrograms
