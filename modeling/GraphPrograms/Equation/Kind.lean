import GraphPrograms.Text.Case

/-!
The kind of function an expression looks like, told by the words and signs in it.

Each kind has its cues, and the kinds are tried in a fixed order, so `sin(x)^2` is trigonometric
and not quadratic.  Cues are looked for in the lower case of an expression.
-/

namespace GraphPrograms

inductive FunctionKind where
  | trigonometric
  | quadratic
  | logarithmic
  | radical
  | exponential
  | linear
deriving DecidableEq, Repr

namespace FunctionKind

/-- The kinds that are recognised by cues, in the order in which they are tried. -/
def cues : List (FunctionKind × List Text) :=
  [(trigonometric, ["sin".toList, "cos".toList, "tan".toList]),
   (quadratic, ["^2".toList]),
   (logarithmic, ["log".toList]),
   (radical, ["sqrt".toList, ['√']]),
   (exponential, ["^".toList])]

/-- The first kind with a cue in the expression; an expression without cues is linear. -/
def classify (expression : Text) : FunctionKind :=
  let lowered := Text.lower expression
  match cues.find? fun entry => entry.2.any (Text.contains · lowered) with
  | some entry => entry.1
  | none => linear

def label : FunctionKind → Text
  | trigonometric => "Trigonometric".toList
  | quadratic => "Quadratic".toList
  | logarithmic => "Logarithmic".toList
  | radical => "Radical".toList
  | exponential => "Exponential".toList
  | linear => "Linear".toList

/-- The place of a kind in the order in which kinds are tried, the first the highest. -/
def rank : FunctionKind → Nat
  | trigonometric => 5
  | quadratic => 4
  | logarithmic => 3
  | radical => 2
  | exponential => 1
  | linear => 0

end FunctionKind

end GraphPrograms
