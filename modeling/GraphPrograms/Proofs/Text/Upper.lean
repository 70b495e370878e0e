import GraphPrograms.Text.Case

/-!
What upper case makes of a character.

A character of an upper case comes from the tables or is the character itself (`of_mem_upperChar`).
All that the tables say is put into two lists of codes: the small ones have another upper case, and
the capital ones are what it consists of.  That the two have nothing in common is checked once, with
the lists as bits of two numbers, and means that upper case is reached in one step.
-/

namespace GraphPrograms.Text

variable {mark character : Char} {text : Text} {run : CaseRun} {code : Nat} {codes : List Nat}

theorem toNat_ofNat (valid : code.isValidChar) : (Char.ofNat code).toNat = code := by
  rw [Char.ofNat, dif_pos valid]
  rfl

def CaseRun.letters (run : CaseRun) : List Nat :=
  (List.range ((run.last - run.first) / run.step + 1)).map fun turn => run.first + run.step * turn

def smallCodes : List Nat :=
  upperExpansions.map Prod.fst ++ upperRuns.flatMap CaseRun.letters

def capitalCodes : List Nat :=
  upperExpansions.flatMap Prod.snd ++ upperRuns.flatMap fun run => run.letters.map run.image

theorem mem_letters_of_covers (covered : run.covers code) : code ∈ run.letters := by
  simp only [CaseRun.covers, Bool.and_eq_true, decide_eq_true_eq, beq_iff_eq] at covered
  obtain ⟨⟨above, below⟩, turns⟩ := covered
  have whole := Nat.mul_div_cancel' (Nat.dvd_of_mod_eq_zero turns)
  have turn : (code - run.first) / run.step ≤ (run.last - run.first) / run.step :=
    Nat.div_le_div_right (by omega)
  refine List.mem_map.mpr ⟨(code - run.first) / run.step, ?_, by omega⟩
  exact List.mem_range.mpr (Nat.lt_succ_of_le turn)

theorem small_of_covers (listed : run ∈ upperRuns) (covered : run.covers code) :
    code ∈ smallCodes :=
  List.mem_append_right _ (List.mem_flatMap.mpr ⟨run, listed, mem_letters_of_covers covered⟩)

theorem capital_of_covers (listed : run ∈ upperRuns) (covered : run.covers code) :
    run.image code ∈ capitalCodes := by
  have image := List.mem_map_of_mem (f := run.image) (mem_letters_of_covers covered)
  exact List.mem_append_right _ (List.mem_flatMap.mpr ⟨run, listed, image⟩)

theorem of_mem_upperChar (member : mark ∈ upperChar character) :
    (∃ code ∈ capitalCodes, mark = Char.ofNat code) ∨
      mark = character ∧ upperChar character = [character] := by
  rcases recased_cases upperExpansions upperRuns character with
    ⟨expansion, entry, expanded⟩ | ⟨run, listed, covered, moved⟩ | itself
  · rw [upperChar, expanded] at member
    obtain ⟨code, inside, made⟩ := List.mem_map.mp member
    have capital : code ∈ capitalCodes :=
      List.mem_append_left _ (List.mem_flatMap.mpr ⟨_, entry, inside⟩)
    exact .inl ⟨code, capital, made.symm⟩
  · rw [upperChar, moved] at member
    exact .inl ⟨_, capital_of_covers listed covered, List.mem_singleton.mp member⟩
  · rw [upperChar, itself] at member
    exact .inr ⟨List.mem_singleton.mp member, itself⟩

theorem upperChar_of_not_small (notSmall : character.toNat ∉ smallCodes) :
    upperChar character = [character] := by
  rcases recased_cases upperExpansions upperRuns character with
    ⟨_, entry, _⟩ | ⟨_, listed, covered, _⟩ | itself
  · exact absurd (List.mem_append_left _ (List.mem_map_of_mem (f := Prod.fst) entry)) notSmall
  · exact absurd (small_of_covers listed covered) notSmall
  · exact itself

/-- A list of numbers as the bits of one. -/
def bitmap (codes : List Nat) : Nat := codes.foldr (fun code bits => bits ||| 1 <<< code) 0

theorem testBit_bitmap : (bitmap codes).testBit code = decide (code ∈ codes) := by
  induction codes with
  | nil => simp [bitmap]
  | cons first rest ih =>
      change (bitmap rest ||| 1 <<< first).testBit code = _
      rw [Nat.testBit_or, ih, Nat.one_shiftLeft, Nat.testBit_two_pow]
      by_cases here : code = first <;> simp [here, eq_comm]

theorem bitmaps_disjoint : bitmap smallCodes &&& bitmap capitalCodes = 0 := by
  decide +kernel

theorem not_small_of_capital (capital : code ∈ capitalCodes) : code ∉ smallCodes := by
  intro small
  -- A code in both lists would be a bit that both numbers have.
  have shared := congrArg (Nat.testBit · code) bitmaps_disjoint
  simp [testBit_bitmap, small, capital] at shared

theorem capitalCodes_visible : ∀ code ∈ capitalCodes, code.isValidChar ∧ 0x20 ≤ code := by
  decide +kernel

theorem smallCodes_late : ∀ code ∈ smallCodes, 0x61 ≤ code := by
  decide +kernel

/-- What upper case makes is upper case. -/
theorem upperChar_of_mem_upperChar (member : mark ∈ upperChar character) :
    upperChar mark = [mark] := by
  rcases of_mem_upperChar member with ⟨code, capital, rfl⟩ | ⟨rfl, itself⟩
  · obtain ⟨valid, _⟩ := capitalCodes_visible code capital
    apply upperChar_of_not_small
    rw [toNat_ofNat valid]
    exact not_small_of_capital capital
  · exact itself

theorem upperChar_of_mem_upper (member : mark ∈ upper text) : upperChar mark = [mark] := by
  obtain ⟨_, _, made⟩ := List.mem_flatMap.mp member
  exact upperChar_of_mem_upperChar made

theorem mem_of_mem_upperChar (low : mark.toNat < 0x20) (member : mark ∈ upperChar character) :
    mark = character := by
  rcases of_mem_upperChar member with ⟨code, capital, rfl⟩ | ⟨rfl, _⟩
  · obtain ⟨valid, visible⟩ := capitalCodes_visible code capital
    rw [toNat_ofNat valid] at low
    omega
  · rfl

theorem mem_of_mem_upper (low : mark.toNat < 0x20) (member : mark ∈ upper text) : mark ∈ text := by
  obtain ⟨character, inside, made⟩ := List.mem_flatMap.mp member
  rw [mem_of_mem_upperChar low made]
  exact inside

theorem upperChar_of_lt (early : character.toNat < 0x61) : upperChar character = [character] := by
  apply upperChar_of_not_small
  intro small
  have late := smallCodes_late _ small
  omega

theorem upper_of_upperChar (capital : ∀ character ∈ text, upperChar character = [character]) :
    upper text = text := by
  induction text with
  | nil => rfl
  | cons first rest ih =>
      have later : ∀ character ∈ rest, upperChar character = [character] :=
        fun character inside => capital character (List.mem_cons_of_mem first inside)
      rw [upper_cons, capital first List.mem_cons_self, ih later]
      rfl

theorem upper_eq_self (early : ∀ character ∈ text, character.toNat < 0x61) :
    upper text = text :=
  upper_of_upperChar fun character inside => upperChar_of_lt (early character inside)

end GraphPrograms.Text
