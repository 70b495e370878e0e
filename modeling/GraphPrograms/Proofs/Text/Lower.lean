import GraphPrograms.Proofs.Text.Upper

/-!
What is found in the lower case of a text.

A sign is spared if no letter outside ASCII is lowered to it and it is no such letter itself.  The
sigmas are not spared, nor is the mark that a lowered `İ` leaves behind its `i`; so a part of spared
signs that does not end in an `i` takes in nothing of them.  Such a part is in the lower case of a
text if and only if it is there when only the letters of ASCII are lowered (`infix_lower_iff`), and
those are lowered one by one, whatever stands around them.
-/

namespace GraphPrograms.Text

variable {sign character : Char} {part more before after later text : Text} {run : CaseRun}

/-- Whether the run is of ASCII, or the sign is not between its letters or what they become. -/
def CaseRun.spares (run : CaseRun) (sign : Char) : Bool :=
  decide (run.last < 0x80) ||
    !inRanges [(run.first, run.last), (run.target, run.image run.last)] sign.toNat

def isSpared (sign : Char) : Bool :=
  decide (sign ∉ ['Σ', 'σ', 'ς', 'İ', Char.ofNat 0x307]) && lowerRuns.all (·.spares sign)

/-- A part of spared signs that does not end like a lowered `İ` begins. -/
structure Spared (part : Text) : Prop where
  signs : ∀ sign ∈ part, isSpared sign = true
  ending : part.getLast? ≠ some 'i'

instance (part : Text) : Decidable (Spared part) :=
  decidable_of_iff (part.all isSpared = true ∧ part.getLast? ≠ some 'i')
    ⟨fun both => ⟨List.all_eq_true.mp both.1, both.2⟩,
      fun spared => ⟨List.all_eq_true.mpr spared.signs, spared.ending⟩⟩

theorem Spared.tail (spared : Spared (sign :: more)) : Spared more where
  signs other inside := spared.signs other (List.mem_cons_of_mem sign inside)
  ending := by
    cases more with
    | nil => simp
    | cons next rest => simpa using spared.ending

/-- Characters that are the same spared sign, or are none of them. -/
def Alike (first second : Char) : Prop :=
  ∀ sign, isSpared sign = true → (sign = first ↔ sign = second)

theorem alike_of_not_spared {first second : Char} (notFirst : isSpared first = false)
    (notSecond : isSpared second = false) : Alike first second := by
  intro sign spared
  constructor
  · rintro rfl
    simp [spared] at notFirst
  · rintro rfl
    simp [spared] at notSecond

theorem lowerChar_of_capital : ∀ offset < 26,
    lowerChar (Char.ofNat (0x41 + offset)) = [(Char.ofNat (0x41 + offset)).toLower] := by
  decide +kernel

theorem toLower_of_not_capital (small : character.toNat < 0x41 ∨ 0x5A < character.toNat) :
    character.toLower = character := by
  have outside : ¬ (character.val ≥ 'A'.val ∧ character.val ≤ 'Z'.val) := by
    rintro ⟨above, below⟩
    have first : 0x41 ≤ character.toNat := UInt32.le_iff_toNat_le.mp above
    have last : character.toNat ≤ 0x5A := UInt32.le_iff_toNat_le.mp below
    omega
  exact dif_neg outside

/-- The runs of ASCII have capitals only, and the others make code points of characters. -/
theorem lowerRuns_parted : ∀ run ∈ lowerRuns, 0x41 ≤ run.first ∧ run.last ≤ 0x5A ∨
    0x80 ≤ run.last ∧
      (run.image run.last < 0xD800 ∨ 0xDFFF < run.target ∧ run.image run.last < 0x110000) := by
  decide +kernel

/-- A spared sign is far from every run outside ASCII. -/
theorem not_spared_of_near (listed : run ∈ lowerRuns) (wide : 0x80 ≤ run.last)
    (near : run.first ≤ sign.toNat ∧ sign.toNat ≤ run.last ∨
      run.target ≤ sign.toNat ∧ sign.toNat ≤ run.image run.last) : isSpared sign = false := by
  rw [Bool.eq_false_iff]
  intro spared
  simp only [isSpared, Bool.and_eq_true, List.all_eq_true] at spared
  have far := spared.2 run listed
  simp only [CaseRun.spares, inRanges, List.any_cons, List.any_nil, Bool.or_false,
    Bool.or_eq_true, decide_eq_true_eq, Bool.not_eq_true', Bool.or_eq_false_iff,
    Bool.and_eq_false_iff, decide_eq_false_iff_not] at far
  omega

theorem not_spared_of_covers (listed : run ∈ lowerRuns) (covered : run.covers character.toNat)
    (small : character.toNat < 0x41 ∨ 0x5A < character.toNat) :
    isSpared character = false ∧ isSpared (Char.ofNat (run.image character.toNat)) = false := by
  simp only [CaseRun.covers, Bool.and_eq_true, decide_eq_true_eq] at covered
  obtain ⟨⟨above, below⟩, _⟩ := covered
  rcases lowerRuns_parted run listed with capital | ⟨wide, valid⟩
  · omega
  · have image : (Char.ofNat (run.image character.toNat)).toNat = run.image character.toNat := by
      apply toNat_ofNat
      simp only [CaseRun.image, Nat.isValidChar] at valid ⊢
      omega
    refine ⟨not_spared_of_near listed wide (.inl ⟨above, below⟩),
      not_spared_of_near listed wide (.inr ?_)⟩
    rw [image, CaseRun.image, CaseRun.image]
    omega

theorem lowerChar_cases (character : Char) :
    (∃ mark, lowerChar character = [mark] ∧ Alike mark character.toLower) ∨
      character = 'İ' := by
  by_cases capital : 0x41 ≤ character.toNat ∧ character.toNat ≤ 0x5A
  · have lowered := lowerChar_of_capital (character.toNat - 0x41) (by omega)
    rw [Nat.add_sub_cancel' capital.1, Char.ofNat_toNat] at lowered
    exact .inl ⟨_, lowered, fun _ _ => Iff.rfl⟩
  · have small : character.toNat < 0x41 ∨ 0x5A < character.toNat := by omega
    rw [toLower_of_not_capital small]
    rcases recased_cases lowerExpansions lowerRuns character with
      ⟨expansion, entry, _⟩ | ⟨run, listed, covered, moved⟩ | itself
    · have code : character.toNat = 0x130 := congrArg Prod.fst (List.mem_singleton.mp entry)
      exact .inr (Char.toNat_inj.mp code)
    · obtain ⟨notSpared, notMade⟩ := not_spared_of_covers listed covered small
      exact .inl ⟨_, moved, alike_of_not_spared notMade notSpared⟩
    · exact .inl ⟨character, itself, fun _ _ => Iff.rfl⟩

/-- A character becomes one that is alike, but for the `İ`, which leaves an `i` and a mark. -/
theorem lowerBetween_cases (before : Text) (character : Char) (after : Text) :
    (∃ mark, lowerBetween before character after = [mark] ∧ Alike mark character.toLower) ∨
      lowerBetween before character after = ['i', Char.ofNat 0x307] ∧
        isSpared character.toLower = false := by
  by_cases sigma : character = 'Σ'
  · subst sigma
    refine .inl ⟨smallSigma before after, if_pos rfl, alike_of_not_spared ?_ (by decide +kernel)⟩
    unfold smallSigma
    split <;> decide +kernel
  · rw [lowerBetween, if_neg sigma]
    rcases lowerChar_cases character with single | rfl
    · exact .inl single
    · exact .inr ⟨by decide +kernel, by decide +kernel⟩

theorem prefix_lowerBehind_iff (spared : Spared part) (before text : Text) :
    part <+: lowerBehind before text ↔ part <+: text.map Char.toLower := by
  induction text generalizing before part with
  | nil => rfl
  | cons first rest ih =>
      cases part with
      | nil => simp
      | cons sign more =>
          have own := spared.signs sign List.mem_cons_self
          rw [lowerBehind, List.map_cons, List.cons_prefix_cons]
          rcases lowerBetween_cases before first rest with
            ⟨mark, lowered, alike⟩ | ⟨lowered, notSpared⟩
          · rw [lowered, List.singleton_append, List.cons_prefix_cons, alike sign own,
              ih spared.tail]
          · rw [lowered]
            constructor
            · intro starts
              obtain ⟨rfl, behind⟩ := List.cons_prefix_cons.mp starts
              cases more with
              | nil => exact absurd rfl spared.ending
              | cons next _ =>
                  obtain ⟨rfl, _⟩ := List.cons_prefix_cons.mp behind
                  exact absurd (spared.tail.signs _ List.mem_cons_self) (by decide +kernel)
            · rintro ⟨rfl, _⟩
              simp [own] at notSpared

/-- A part cannot start inside what one character becomes. -/
theorem infix_lowerBetween_append_iff (spared : Spared part) :
    part <:+: lowerBetween before character after ++ later ↔
      part <+: lowerBetween before character after ++ later ∨ part <:+: later := by
  rcases lowerBetween_cases before character after with ⟨mark, lowered, _⟩ | ⟨lowered, _⟩
  · rw [lowered, List.singleton_append, List.infix_cons_iff]
  · have mark : part <+: Char.ofNat 0x307 :: later → part = [] := by
      intro starts
      cases part with
      | nil => rfl
      | cons sign more =>
          obtain ⟨rfl, _⟩ := List.cons_prefix_cons.mp starts
          exact absurd (spared.signs _ List.mem_cons_self) (by decide +kernel)
    rw [lowered, List.cons_append, List.singleton_append, List.infix_cons_iff, List.infix_cons_iff]
    constructor
    · rintro (starts | starts | inside)
      · exact .inl starts
      · exact .inl (by simp [mark starts])
      · exact .inr inside
    · rintro (starts | inside)
      · exact .inl starts
      · exact .inr (.inr inside)

theorem infix_lowerBehind_iff (spared : Spared part) (before text : Text) :
    part <:+: lowerBehind before text ↔ part <:+: text.map Char.toLower := by
  induction text generalizing before with
  | nil => rfl
  | cons first rest ih =>
      have starts := prefix_lowerBehind_iff spared before (first :: rest)
      rw [lowerBehind] at starts ⊢
      rw [infix_lowerBetween_append_iff spared, starts, ih, List.map_cons, List.infix_cons_iff]

/-- For a part of spared signs, lowering the letters of ASCII is enough. -/
theorem infix_lower_iff (spared : Spared part) :
    part <:+: lower text ↔ part <:+: text.map Char.toLower :=
  infix_lowerBehind_iff spared [] text

end GraphPrograms.Text
