import GraphPrograms.Command.Basic
import GraphPrograms.Proofs.Session.Preview
import GraphPrograms.Proofs.Text.Lower

/-!
The kind of an expression, and of an expression that it is part of.

Kinds are ranked, and an expression is of the highest kind that it has a cue for
(`classify_eq_iff`).  Cues consist of spared signs, so the letters of ASCII alone decide about them:
more text around an expression can only raise its kind, and the calculator's letters leave it.  So
the kind that is shown of an equation is the kind of the expression in its program.
-/

namespace GraphPrograms

namespace FunctionKind

variable {kind : FunctionKind} {expression other : Text}

/-- A kind that an expression has a cue for. -/
def Cued (kind : FunctionKind) (expression : Text) : Prop :=
  ∃ entry ∈ cues, entry.1 = kind ∧ ∃ cue ∈ entry.2, cue <:+: Text.lower expression

theorem spared_of_mem_cues : ∀ entry ∈ cues, ∀ cue ∈ entry.2, Text.Spared cue := by
  decide +kernel

theorem pairwise_rank_cues :
    cues.Pairwise fun earlier later => later.1.rank < earlier.1.rank := by
  decide

theorem rank_injective : Function.Injective rank := by
  intro first second same
  cases first <;> cases second <;> simp_all [rank]

theorem cued_iff : Cued kind expression ↔
    ∃ entry ∈ cues, entry.1 = kind ∧ ∃ cue ∈ entry.2, cue <:+: expression.map Char.toLower := by
  refine exists_congr fun entry => and_congr_right fun listed => and_congr_right fun _ => ?_
  exact exists_congr fun cue => and_congr_right fun member =>
    Text.infix_lower_iff (spared_of_mem_cues entry listed cue member)

/-- An expression is linear without a cue, or of the first kind in the list that has one. -/
theorem classify_cases (expression : Text) :
    (classify expression = linear ∧ ∀ kind, ¬ Cued kind expression) ∨
    ∃ earlier words later, cues = earlier ++ (classify expression, words) :: later ∧
      Cued (classify expression) expression ∧
      ∀ entry ∈ earlier, ∀ cue ∈ entry.2, ¬ cue <:+: Text.lower expression := by
  cases found : cues.find? fun entry => entry.2.any (Text.contains · (Text.lower expression)) with
  | none =>
      have isLinear : classify expression = linear := by simp only [classify, found]
      refine .inl ⟨isLinear, ?_⟩
      rintro _ ⟨entry, listed, rfl, cue, member, inside⟩
      have missed := List.find?_eq_none.mp found entry listed
      exact missed (List.any_eq_true.mpr ⟨cue, member, Text.contains_iff.mpr inside⟩)
  | some first =>
      have isFirst : classify expression = first.1 := by simp only [classify, found]
      obtain ⟨shown, earlier, later, whole, missed⟩ := List.find?_eq_some_iff_append.mp found
      obtain ⟨cue, member, inside⟩ := List.any_eq_true.mp shown
      have listed : first ∈ cues := by simp [whole]
      rw [isFirst]
      refine .inr ⟨earlier, first.2, later, whole,
        ⟨first, listed, rfl, cue, member, Text.contains_iff.mp inside⟩, ?_⟩
      intro entry before other otherMember otherInside
      have matching : (entry.2.any (Text.contains · (Text.lower expression))) = true :=
        List.any_eq_true.mpr ⟨other, otherMember, Text.contains_iff.mpr otherInside⟩
      have unmatched := missed entry before
      simp [matching] at unmatched

theorem classify_eq_linear_or_cued (expression : Text) :
    classify expression = linear ∨ Cued (classify expression) expression := by
  rcases classify_cases expression with ⟨isLinear, _⟩ | ⟨_, _, _, _, cued, _⟩
  · exact .inl isLinear
  · exact .inr cued

theorem Cued.rank_le (cued : Cued kind expression) : kind.rank ≤ (classify expression).rank := by
  rcases classify_cases expression with ⟨_, none⟩ | ⟨earlier, words, later, whole, _, missed⟩
  · exact absurd cued (none kind)
  · obtain ⟨entry, listed, rfl, cue, member, inside⟩ := cued
    have ranked := pairwise_rank_cues
    rw [whole] at listed ranked
    rcases List.mem_append.mp listed with before | behind
    · exact absurd inside (missed entry before cue member)
    · rcases List.mem_cons.mp behind with rfl | behind
      · exact Nat.le_refl _
      · obtain ⟨_, fromFirst, _⟩ := List.pairwise_append.mp ranked
        exact Nat.le_of_lt ((List.pairwise_cons.mp fromFirst).1 entry behind)

/-- An expression is of the highest kind that it has a cue for. -/
theorem classify_eq_iff : classify expression = kind ↔
    (kind = linear ∨ Cued kind expression) ∧
      ∀ other, Cued other expression → other.rank ≤ kind.rank := by
  constructor
  · rintro rfl
    exact ⟨classify_eq_linear_or_cued expression, fun _ cued => cued.rank_le⟩
  · rintro ⟨own, highest⟩
    apply rank_injective
    apply Nat.le_antisymm
    · rcases classify_eq_linear_or_cued expression with isLinear | cued
      · rw [isLinear]
        exact Nat.zero_le _
      · exact highest _ cued
    · rcases own with rfl | cued
      · exact Nat.zero_le _
      · exact cued.rank_le

theorem rank_classify_le (carried : ∀ kind, Cued kind expression → Cued kind other) :
    (classify expression).rank ≤ (classify other).rank := by
  rcases classify_eq_linear_or_cued expression with isLinear | cued
  · rw [isLinear]
    exact Nat.zero_le _
  · exact (carried _ cued).rank_le

theorem Cued.append (cued : Cued kind expression) (before after : Text) :
    Cued kind (before ++ expression ++ after) := by
  obtain ⟨entry, listed, same, cue, member, inside⟩ := cued_iff.mp cued
  refine cued_iff.mpr ⟨entry, listed, same, cue, member, ?_⟩
  rw [List.map_append, List.map_append]
  exact inside.trans (List.infix_append _ _ _)

theorem toLower_deviceLetter (letter : Char) : (deviceLetter letter).toLower = letter.toLower := by
  unfold deviceLetter
  split
  · subst letter
    decide
  · split
    · subst letter
      decide
    · rfl

theorem cued_deviceLetters_iff : Cued kind (deviceLetters expression) ↔ Cued kind expression := by
  have lowered : (deviceLetters expression).map Char.toLower = expression.map Char.toLower := by
    rw [deviceLetters, List.map_map]
    exact List.map_congr_left fun letter _ => toLower_deviceLetter letter
  rw [cued_iff, cued_iff, lowered]

theorem classify_deviceLetters (expression : Text) :
    classify (deviceLetters expression) = classify expression := by
  rw [classify_eq_iff]
  simp only [cued_deviceLetters_iff]
  exact classify_eq_iff.mp rfl

end FunctionKind

namespace Chunk

variable {equations : List Equation} {position : Nat} {equation : Equation}

theorem length_pairInstructions (chunk : Chunk) :
    (chunk.pairs.flatMap InstructionPair.instructions).length = 2 * chunk.equationCount := by
  simp [List.length_flatMap, InstructionPair.instructions, equationCount, Nat.mul_comm]

/-- The first instruction of the equation at a position of the whole list. -/
theorem getElem?_instructions (assignment : Assignment)
    (listed : equations[position]? = some equation) :
    ∃ chunk, (ofEquations equations assignment)[position / slotCount]? = some chunk ∧
      chunk.instructions[2 * (position % slotCount)]? =
        some (.piecewise equation.normalize.expression equation.normalize.constraint
          (.ofPosition position)) := by
  obtain ⟨inside, rfl⟩ := List.getElem?_eq_some_iff.mp listed
  obtain ⟨chunk, found, fits⟩ := exists_chunk assignment inside
  have slotted : position % slotCount < slotCount := Nat.mod_lt _ (by decide)
  have pair := getElem?_pairs found (position % slotCount)
  rw [if_pos slotted, Nat.div_add_mod, listed, Option.map_some, Slot.ofPosition_mod] at pair
  have even : ∀ pair : InstructionPair, pair.instructions.length = 2 := fun _ => rfl
  have placed := getElem?_flatMap_of_length even chunk.pairs (position % slotCount)
    (show 0 < 2 by decide)
  have early := length_pairInstructions chunk
  refine ⟨chunk, found, ?_⟩
  rw [instructions, List.getElem?_append_left (by omega)]
  exact placed.trans (by rw [pair]; rfl)

end Chunk

/-- The expression that the programs of a session have for the equation at a position. -/
def Session.Emits (session : Session) (position : Nat) (expression : Text) : Prop :=
  ∃ chunk constraint slot, session.programs[position / 10]? = some chunk ∧
    chunk.instructions[2 * (position % 10)]? = some (.piecewise expression constraint slot)

theorem Session.emits (session : Session) {position : Nat} {equation : Equation}
    (listed : session.equations[position]? = some equation) :
    session.Emits position (deviceLetters equation.expression) := by
  obtain ⟨chunk, found, written⟩ := Chunk.getElem?_instructions session.assignment listed
  exact ⟨chunk, _, _, found, written⟩

namespace FunctionKind

/-- An expression is of the highest kind that it has a cue for, of no lower kind between other
texts, and of the same kind in the calculator's letters; so a session and a report show the kind of
what the programs have. -/
theorem classify_follows_ranks :
    [linear, exponential, radical, logarithmic, quadratic, trigonometric].Pairwise
      (fun lower higher => lower.rank < higher.rank) ∧
    (∀ (kind : FunctionKind) (expression : Text), classify expression = kind ↔
      (kind = linear ∨ Cued kind expression) ∧
        ∀ other, Cued other expression → other.rank ≤ kind.rank) ∧
    (∀ before expression after : Text,
      (classify expression).rank ≤ (classify (before ++ expression ++ after)).rank) ∧
    (∀ expression : Text, classify (deviceLetters expression) = classify expression) ∧
    (∀ (session : Session) (current : CurrentEquation), session.view.current = some current →
      ∃ emitted, session.Emits session.cursor emitted ∧ current.kind = classify emitted) ∧
    ∀ (equations : List Equation) (position : Nat) (equation : Equation),
      equations[position]? = some equation →
      ∃ emitted, (Session.ofEquations equations).Emits position emitted ∧
        Sheet.equationLine equation (position + 1) =
          Text.padLeft 4 (Text.ofNat (position + 1)) ++ "  ".toList ++
            Text.padRight 13 (classify emitted).label ++ "  ".toList ++ equation.display := by
  refine ⟨by decide, fun _ _ => classify_eq_iff, ?context, classify_deviceLetters, ?session,
    ?report⟩
  case context =>
    intro before expression after
    exact rank_classify_le fun _ cued => cued.append before after
  case session =>
    intro session current shown
    obtain ⟨equation, listed, rfl⟩ := Option.map_eq_some_iff.mp shown
    exact ⟨_, session.emits listed, (classify_deviceLetters equation.expression).symm⟩
  case report =>
    intro equations position equation listed
    refine ⟨_, (Session.ofEquations equations).emits listed, ?_⟩
    rw [classify_deviceLetters]
    rfl

/-- A root that is written in both cases, with letters before it that have no simple lower case:
the `İ` keeps `sin` from being read, and the sigma ends a word. -/
theorem classify_follows_ranks_dotted :
    let equation : Equation := ⟨"SİN(ΑΣ)+SqrT(y)".toList, []⟩
    let equations := List.replicate 12 equation
    let session : Session := { Session.ofEquations equations with cursor := 10 }
    (∃ current emitted, session.view.current = some current ∧ session.Emits 10 emitted ∧
      current.kind = classify emitted ∧ classify emitted = radical) ∧
    ∃ emitted, (Session.ofEquations equations).Emits 11 emitted ∧
      Sheet.equationLine equation 12 =
        Text.padLeft 4 (Text.ofNat 12) ++ "  ".toList ++
          Text.padRight 13 (classify emitted).label ++ "  ".toList ++ equation.display := by
  intro equation equations session
  obtain ⟨_, _, _, _, shown, reported⟩ := classify_follows_ranks
  obtain ⟨emitted, emits, same⟩ := shown session (session.currentView equation) rfl
  have root : (session.currentView equation).kind = radical := by decide +kernel
  exact ⟨⟨_, emitted, rfl, emits, same, same.symm.trans root⟩, reported equations 11 equation rfl⟩

end FunctionKind

end GraphPrograms
