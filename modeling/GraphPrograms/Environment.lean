import GraphPrograms.Text.Basic

/-!
Environment variables, and texts that refer to them.

A reference is `${`, a name and the next `}`.  Each one is replaced by the value of the variable,
which is not read again; a reference that is not closed is plain text.
-/

namespace GraphPrograms

/-- The variables that are set, with their values, and the home folder of the account. -/
structure Environment where
  bindings : List (Text × Text) := []
  accountHome : Text := "/root".toList

namespace Environment

def get? (environment : Environment) (name : Text) : Option Text :=
  environment.bindings.lookup name

/-- What a reference to a name stands for: nothing if the variable is not set or has no name. -/
def value (environment : Environment) (name : Text) : Text :=
  if name.isEmpty then [] else (environment.get? name).getD []

/-- A text with its references replaced, from left to right. -/
def expand (environment : Environment) : Text → Text
  | [] => []
  | first :: rest =>
      if first = '$' ∧ rest.head? = some '{' then
        if '}' ∈ rest.tail then
          environment.value (rest.tail.takeWhile (· != '}')) ++
            environment.expand ((rest.tail.dropWhile (· != '}')).tail)
        else first :: rest
      else first :: environment.expand rest
termination_by text => text.length
decreasing_by
  · have suffix := (List.dropWhile_suffix (· != '}') (l := rest.tail)).length_le
    simp only [List.length_tail, List.length_cons] at suffix ⊢
    omega
  · simp

end Environment

end GraphPrograms
