import GraphPrograms.Text.Blank
import GraphPrograms.Text.Case.Context
import GraphPrograms.Text.Case.Table

/-!
Upper and lower case.

The upper case of a text is the upper case of its characters in order, whatever stands around
them; one character can become up to three.  So is its lower case, but for the sigma, which has
another form at the end of a word.
-/

namespace GraphPrograms.Text

/-- Whether a code point is a letter of the run. -/
def CaseRun.covers (run : CaseRun) (code : Nat) : Bool :=
  decide (run.first ≤ code) && decide (code ≤ run.last) && (code - run.first) % run.step == 0

/-- What a letter of the run becomes, by code point. -/
def CaseRun.image (run : CaseRun) (code : Nat) : Nat := run.target + (code - run.first)

/-- What a character becomes, by the listed expansions and runs; one in neither stays. -/
def recased (expansions : List (Nat × List Nat)) (runs : List CaseRun) (character : Char) : Text :=
  let code := character.toNat
  match expansions.lookup code with
  | some expansion => expansion.map Char.ofNat
  | none =>
      match runs.find? (·.covers code) with
      | some run => [Char.ofNat (run.image code)]
      | none => [character]

theorem recased_cases (expansions : List (Nat × List Nat)) (runs : List CaseRun)
    (character : Char) :
    (∃ expansion, (character.toNat, expansion) ∈ expansions ∧
      recased expansions runs character = expansion.map Char.ofNat) ∨
    (∃ run ∈ runs, run.covers character.toNat ∧
      recased expansions runs character = [Char.ofNat (run.image character.toNat)]) ∨
    recased expansions runs character = [character] := by
  cases listed : expansions.lookup character.toNat with
  | some expansion =>
      obtain ⟨earlier, later, whole, _⟩ := List.lookup_eq_some_iff.mp listed
      exact .inl ⟨expansion, by simp [whole], by simp only [recased, listed]⟩
  | none =>
      cases found : runs.find? (·.covers character.toNat) with
      | some run =>
          have covered : run.covers character.toNat :=
            List.find?_some (p := fun run : CaseRun => run.covers character.toNat) found
          exact .inr (.inl ⟨run, List.mem_of_find?_eq_some found, covered,
            by simp only [recased, listed, found]⟩)
      | none => exact .inr (.inr (by simp only [recased, listed, found]))

/-- The upper case of one character; a character without one is its own. -/
def upperChar (character : Char) : Text := recased upperExpansions upperRuns character

def upper (text : Text) : Text := text.flatMap upperChar

@[simp] theorem upper_nil : upper [] = [] := rfl

@[simp] theorem upper_cons (first : Char) (rest : Text) :
    upper (first :: rest) = upperChar first ++ upper rest := rfl

@[simp] theorem upper_append (left right : Text) :
    upper (left ++ right) = upper left ++ upper right :=
  List.flatMap_append

/-- The lower case of one character that stands alone. -/
def lowerChar (character : Char) : Text := recased lowerExpansions lowerRuns character

/-- Whether the first character that is no mark inside a word is a letter with a case. -/
def meetsCased (text : Text) : Bool :=
  match text.dropWhile (inRanges ignorableRanges ·.toNat) with
  | [] => false
  | first :: _ => inRanges casedRanges first.toNat

/-- The small sigma for a place: the final one at the end of a word.  Of the characters before the
place the nearest comes first. -/
def smallSigma (before after : Text) : Char :=
  if meetsCased before && !meetsCased after then 'ς' else 'σ'

/-- What a character becomes in lower case between others, of which the nearest come first. -/
def lowerBetween (before : Text) (character : Char) (after : Text) : Text :=
  if character = 'Σ' then [smallSigma before after] else lowerChar character

/-- The lower case of a text that stands behind other characters, the nearest of them first. -/
def lowerBehind (before : Text) : Text → Text
  | [] => []
  | first :: rest => lowerBetween before first rest ++ lowerBehind (first :: before) rest

def lower (text : Text) : Text := lowerBehind [] text

end GraphPrograms.Text
