import GraphPrograms.Proofs.Equation.Grouping
import GraphPrograms.Proofs.Text.Spaced

/-!
What a plain line is free of.

A sign is an entry of the table by itself, so spelling out never leaves one, and no spelling has
one.  The later passes bring in parentheses and spaces only, and take away the backslashes and all
other blanks.
-/

namespace GraphPrograms.Plain

variable {mark : Char} {spelled text line : Text}

theorem exists_spelling_of_sign {sign : Char} (listed : sign ∈ signs) (rest : Text) :
    ∃ entry, spelling? (sign :: rest) = some entry := by
  have single : ∀ sign ∈ signs, ∃ entry ∈ spellings, entry.1 = [sign] :=
    List.forall_iff_forall_mem.mp (by decide)
  obtain ⟨entry, tabled, spells⟩ := single sign listed
  refine Option.isSome_iff_exists.mp ?_
  rw [spelling?, List.find?_isSome]
  exact ⟨entry, tabled, by simp [spells]⟩

theorem sign_not_mem_spellOut {sign : Char} (listed : sign ∈ signs) (text : Text) :
    sign ∉ spellOut text := by
  have spelled : ∀ sign ∈ signs, ∀ entry ∈ spellings, sign ∉ entry.2 :=
    List.forall_iff_forall_mem.mp (by decide)
  induction text using spellOut.induct with
  | case1 => simp [spellOut]
  | case2 first rest entry found ih =>
      rw [spellOut, found, List.mem_append, not_or]
      exact ⟨spelled sign listed entry (List.mem_of_find?_eq_some found), ih⟩
  | case3 first rest found ih =>
      rw [spellOut, found, List.mem_cons, not_or]
      refine ⟨?_, ih⟩
      rintro rfl
      obtain ⟨entry, spells⟩ := exists_spelling_of_sign listed rest
      exact absurd (found.symm.trans spells) (Option.some_ne_none entry).symm

theorem mem_of_mem_parenthesize (other : mark ∉ "(\x7b)\x7d".toList)
    (inside : mark ∈ parenthesize text) : mark ∈ text := by
  have image := List.mem_map_of_mem (f := asBrace) inside
  rw [parenthesize, map_asBrace_parenthesizeAfter] at image
  obtain ⟨source, listed, same⟩ := List.mem_map.mp image
  rw [(asBrace_eq_iff other).mpr rfl, asBrace_eq_iff other] at same
  rwa [← same]

theorem unmarked_ofLine (line : Text) : Unmarked (ofLine line) where
  backslash := by
    intro inside
    have left := Text.mem_of_mem_compact (by decide) inside
    simp at left
  sign := by
    have visible : ∀ sign ∈ signs, Text.isBlank sign = false :=
      List.forall_iff_forall_mem.mp (by decide)
    have others : ∀ sign ∈ signs, sign ∉ "(\x7b)\x7d".toList :=
      List.forall_iff_forall_mem.mp (by decide)
    intro sign listed inside
    have left := Text.mem_of_mem_compact (visible sign listed) inside
    exact sign_not_mem_spellOut listed line
      (mem_of_mem_parenthesize (others sign listed) (List.mem_filter.mp left).1)

/-- A plain line has no backslash, no sign of the table, and no blanks but single spaces between
visible characters. -/
theorem ofLine_is_clear (line : Text) :
    '\\' ∉ ofLine line ∧
      (∀ sign spelled, ([sign], spelled) ∈ spellings → sign ∉ ofLine line) ∧
      (∀ before blank after, ofLine line = before ++ blank :: after → Text.isBlank blank = true →
        blank = ' ' ∧ (∃ last, before.getLast? = some last ∧ Text.isBlank last = false) ∧
          ∃ next, after.head? = some next ∧ Text.isBlank next = false) ∧
      (Text.isAllBlank (ofLine line) = true → ofLine line = []) := by
  have unmarked := unmarked_ofLine line
  refine ⟨unmarked.backslash, ?_, ?_, ?_⟩
  · intro sign spelled tabled
    obtain ⟨mark, marks, head⟩ := head_spellings tabled
    obtain rfl : sign = mark := Option.some.inj head
    exact unmarked_iff.mp unmarked sign marks
  · exact Text.singlySpaced_compact _
  · intro blank
    rwa [isAllBlank_ofLine, List.isEmpty_iff] at blank

/-- A sign, commands that touch it, backslashes of no command, and blanks of all kinds. -/
theorem ofLine_is_clear_mixed :
    let line : Text := "\t\\alpha\\,≤ \u2003\\\\\\leqπ\n".toList
    let empty : Text := "\\left\u3000\\ ".toList
    ofLine line = "alpha".toList ++ ' ' :: "<= <=pi".toList ∧ '≤' ∉ ofLine line ∧
      ((∃ last, "alpha".toList.getLast? = some last ∧ Text.isBlank last = false) ∧
        ∃ next, "<= <=pi".toList.head? = some next ∧ Text.isBlank next = false) ∧
      Text.isAllBlank (ofLine empty) = true ∧ ofLine empty = [] := by
  intro line empty
  obtain ⟨-, sign, spaced, -⟩ := ofLine_is_clear line
  obtain ⟨-, -, -, nothing⟩ := ofLine_is_clear empty
  have made : ofLine line = "alpha".toList ++ ' ' :: "<= <=pi".toList := by decide +kernel
  have blank : Text.isAllBlank (ofLine empty) = true := by decide +kernel
  exact ⟨made, sign '≤' "<=".toList (by decide), (spaced _ _ _ made rfl).2, blank, nothing blank⟩

end GraphPrograms.Plain
