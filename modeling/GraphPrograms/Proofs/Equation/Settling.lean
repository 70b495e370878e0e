import GraphPrograms.Proofs.Equation.Clear

/-!
Making a plain line plain again.

The braces of groups become parentheses before the last backslashes go, so a backslash can stand
between a brace and what would make it open a group (`Shielded`).  Such a brace is left, and the
next time it opens a group.  That is all that changes then, and there is nothing left to change the
time after that.
-/

namespace GraphPrograms.Plain

variable {before made text line : Text}

/-- A text without its backslashes. -/
def bare (text : Text) : Text := text.filter (· != '\\')

/-- Backslashes alone stand between a brace and what would make it open a group. -/
def Shielded (text : Text) : Prop :=
  ∃ before after, text = before ++ '{' :: after ∧ ¬ Opens before ∧ Opens (bare before)

theorem spellOut_eq_self (unmarked : Unmarked text) : spellOut text = text := by
  have whole := spellOut_append unmarked []
  rwa [List.append_nil, spellOut, List.append_nil] at whole

theorem bare_append (left right : Text) : bare (left ++ right) = bare left ++ bare right :=
  List.filter_append ..

theorem bare_eq_self (free : '\\' ∉ text) : bare text = text := by
  rw [bare, List.filter_eq_self]
  intro character inside
  rw [bne_iff_ne]
  rintro rfl
  exact free inside

theorem ungrouped_iff : Ungrouped text ↔
    ∀ before after, text = before ++ '{' :: after → ¬ Opens before := by
  refine forall₃_congr fun before after whole => ?_
  rw [← Bool.not_eq_true, opensGroup_iff, List.reverse_reverse]

theorem ungrouped_iff_unopened :
    Ungrouped text ↔ ∀ opener ∈ groupOpeners, ¬ opener ++ ['{'] <:+: text := by
  refine ⟨fun ungrouped opener listed inside => ?_, ungrouped_of_unopened⟩
  obtain ⟨start, after, rfl⟩ := inside
  refine ungrouped_iff.mp ungrouped (start ++ opener) after (by simp) ?_
  exact ⟨opener, listed, List.suffix_append start opener⟩

/-- A brace is left by the pass exactly if it opens no group. -/
theorem kept_brace_iff : (∃ rest, parenthesize text = made ++ '{' :: rest) ↔
    ∃ before after, text = before ++ '{' :: after ∧ ¬ Opens before ∧
      parenthesize before = made := by
  have single : ∀ before, ¬ Opens before ↔ opensGroup (parenthesize before).reverse = false := by
    intro before
    rw [opensGroup_parenthesize, ← Bool.not_eq_true, opensGroup_iff, List.reverse_reverse]
  constructor
  · rintro ⟨rest, whole⟩
    have marks : text.map asBrace = made.map asBrace ++ asBrace '{' :: rest.map asBrace := by
      rw [← map_asBrace_parenthesizeAfter [] [], ← parenthesize, whole]
      simp
    obtain ⟨before, back, rfl, front, behind⟩ := List.map_eq_append_iff.mp marks
    obtain ⟨character, after, rfl, -, -⟩ := List.map_eq_cons_iff.mp behind
    have length : (parenthesize before).length = made.length := by
      rw [parenthesize, length_parenthesizeAfter, ← List.length_map asBrace, front, List.length_map]
    obtain ⟨more, pass⟩ := exists_parenthesize_append before after character
    obtain ⟨same, ends⟩ := List.append_inj (pass.symm.trans whole) length
    obtain ⟨rfl, alone⟩ := exchanged_eq_opening_iff.mp (List.cons.inj ends).1
    exact ⟨before, after, rfl, (single before).mpr alone, same⟩
  · rintro ⟨before, after, rfl, alone, rfl⟩
    obtain ⟨rest, whole⟩ := exists_parenthesize_append before after '{'
    rw [exchanged_eq_opening_iff.mpr ⟨rfl, (single before).mp alone⟩] at whole
    exact ⟨rest, whole⟩

theorem bare_map_asBrace (text : Text) : bare (text.map asBrace) = (bare text).map asBrace := by
  rw [bare, List.filter_map, bare]
  refine congrArg _ (List.filter_congr fun character _ => ?_)
  rw [Function.comp_apply, Bool.eq_iff_iff, bne_iff_ne, bne_iff_ne, ne_eq,
    asBrace_eq_iff (by decide)]

theorem opens_bare_parenthesize (text : Text) :
    Opens (bare (parenthesize text)) ↔ Opens (bare text) := by
  rw [← opens_map_asBrace, ← bare_map_asBrace, parenthesize, map_asBrace_parenthesizeAfter,
    bare_map_asBrace, opens_map_asBrace]

/-- What opens a group once the backslashes are gone is a brace that was left and shielded. -/
theorem ungrouped_bare_parenthesize_iff :
    Ungrouped (bare (parenthesize text)) ↔ ¬ Shielded text := by
  rw [ungrouped_iff]
  constructor
  · rintro ungrouped ⟨before, after, whole, single, opens⟩
    obtain ⟨rest, kept⟩ := kept_brace_iff.mpr ⟨before, after, whole, single, rfl⟩
    refine ungrouped (bare (parenthesize before)) (bare rest) ?_
      ((opens_bare_parenthesize before).mpr opens)
    rw [kept, bare_append]
    rfl
  · intro clear start ending whole opens
    obtain ⟨front, back, pass, rfl, behind⟩ := List.filter_eq_append_iff.mp whole
    obtain ⟨slashes, after, rfl, dropped, -, -⟩ := List.filter_eq_cons_iff.mp behind
    have nothing : bare slashes = [] := List.filter_eq_nil_iff.mpr dropped
    rw [← List.append_assoc] at pass
    obtain ⟨before, rest, rfl, single, made⟩ := kept_brace_iff.mp ⟨after, pass⟩
    refine clear ⟨before, rest, rfl, single, ?_⟩
    rwa [← opens_bare_parenthesize, made, bare_append, nothing, List.append_nil]

theorem ungrouped_compact_iff : Ungrouped (Text.compact text) ↔ Ungrouped text := by
  have visible : ∀ opener ∈ groupOpeners,
      (opener ++ ['{']).Forall fun character => Text.isBlank character = false := by decide
  rw [ungrouped_iff_unopened, ungrouped_iff_unopened]
  refine forall₂_congr fun opener listed => ?_
  have seen := List.forall_iff_forall_mem.mp (visible opener listed)
  rw [Text.infix_compact_iff seen (by simp)]

theorem ungrouped_ofLine_iff : Ungrouped (ofLine line) ↔ ¬ Shielded (spellOut line) := by
  rw [ofLine, ungrouped_compact_iff, ← bare, ungrouped_bare_parenthesize_iff]

theorem compact_parenthesize (compacted : Text.compact text = text) :
    Text.compact (parenthesize text) = parenthesize text := by
  rw [Text.compact_eq_self_iff] at compacted ⊢
  have spaced : ∀ text : Text, Text.SinglySpaced (text.map asBrace) ↔ Text.SinglySpaced text :=
    fun text => Text.singlySpaced_map_iff isBlank_asBrace fun mark => asBrace_eq_iff (by decide)
  rwa [← spaced, parenthesize, map_asBrace_parenthesizeAfter, spaced]

/-- Only the braces that open a group now are changed the second time. -/
theorem ofLine_ofLine (line : Text) : ofLine (ofLine line) = parenthesize (ofLine line) := by
  have unmarked := unmarked_ofLine line
  have free : '\\' ∉ parenthesize (ofLine line) := fun inside =>
    unmarked.backslash (mem_of_mem_parenthesize (by decide) inside)
  have compacted : Text.compact (ofLine line) = ofLine line :=
    Text.compact_eq_self_iff.mpr (Text.singlySpaced_compact _)
  rw [ofLine, spellOut_eq_self unmarked, ← bare, bare_eq_self free, compact_parenthesize compacted]

theorem parenthesize_eq_self_iff : parenthesize text = text ↔ Ungrouped text := by
  refine ⟨fun same => ungrouped_iff.mpr ?_, parenthesize_eq_self⟩
  rintro before after rfl opens
  have group : opensGroup before.reverse = true := by
    rwa [opensGroup_iff, List.reverse_reverse]
  have opening := getElem?_parenthesize_opening before after
  rw [same, if_pos group] at opening
  simp at opening

theorem ungrouped_ofLine_ofLine (line : Text) : Ungrouped (ofLine (ofLine line)) := by
  have unmarked := unmarked_ofLine line
  rw [ungrouped_ofLine_iff, spellOut_eq_self unmarked]
  rintro ⟨before, after, whole, single, opens⟩
  refine single ?_
  rwa [bare_eq_self] at opens
  intro inside
  exact unmarked.backslash (by simp [whole, inside])

theorem ofLine_ofLine_eq_iff : ofLine (ofLine line) = ofLine line ↔ ¬ Shielded (spellOut line) := by
  rw [ofLine_ofLine, parenthesize_eq_self_iff, ungrouped_ofLine_iff]

end GraphPrograms.Plain
