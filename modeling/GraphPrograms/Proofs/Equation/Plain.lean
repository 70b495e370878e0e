import GraphPrograms.Equation.Plain
import GraphPrograms.Proofs.Equation.Spacing

/-!
Lines that are plain already.

A line without commands, signs and brace groups comes out of all passes as it went in, but for its
blanks, so it is read as it would have been read without them.
-/

namespace GraphPrograms.Plain

/-- The signs outside ASCII that are spelled out. -/
def signs : Text := "≤≥≠≈≃→∞π∑−×÷°∫√".toList

/-- What makes a brace behind it open a group. -/
def groupOpeners : List Text := ["^".toList, "_".toList, "sqrt".toList]

/-- A text in which nothing is to be spelled out. -/
structure Unmarked (text : Text) : Prop where
  backslash : '\\' ∉ text
  sign : ∀ sign ∈ signs, sign ∉ text

/-- A text in which no brace opens a group. -/
def Ungrouped (text : Text) : Prop :=
  ∀ before after, text = before ++ '{' :: after → opensGroup before.reverse = false

variable {first : Char} {before text left command spelled rest : Text} {groups : List Bool}

theorem head_spellings {entry : Text × Text} (listed : entry ∈ spellings) :
    ∃ mark ∈ '\\' :: signs, entry.1.head? = some mark := by
  have starts : ∀ entry ∈ spellings, entry.1.head?.any ('\\' :: signs).contains = true := by
    decide
  obtain ⟨mark, head, marks⟩ := (Option.any_eq_true _ _).mp (starts entry listed)
  exact ⟨mark, List.contains_iff_mem.mp marks, head⟩

theorem spelling?_eq_none (notBackslash : first ≠ '\\') (notSign : first ∉ signs) (rest : Text) :
    spelling? (first :: rest) = none := by
  rw [spelling?, List.find?_eq_none]
  intro entry listed fits
  obtain ⟨mark, marks, starts⟩ := head_spellings listed
  obtain ⟨later, command⟩ := List.head?_eq_some_iff.mp starts
  have same : mark = first := by
    rw [command] at fits
    simp at fits
    exact fits.1
  subst same
  rcases List.mem_cons.mp marks with backslash | sign
  · exact notBackslash backslash
  · exact notSign sign

theorem unmarked_iff : Unmarked text ↔ ∀ mark ∈ '\\' :: signs, mark ∉ text := by
  rw [List.forall_mem_cons]
  exact ⟨fun unmarked => ⟨unmarked.backslash, unmarked.sign⟩, fun free => ⟨free.1, free.2⟩⟩

instance (text : Text) : Decidable (Unmarked text) :=
  decidable_of_iff (('\\' :: signs).Forall (· ∉ text))
    (List.forall_iff_forall_mem.trans unmarked_iff.symm)

theorem Unmarked.append {right : Text} (unmarked : Unmarked left) (also : Unmarked right) :
    Unmarked (left ++ right) where
  backslash := by simp [unmarked.backslash, also.backslash]
  sign := fun sign listed => by simp [unmarked.sign sign listed, also.sign sign listed]

theorem spellOut_append (unmarked : Unmarked left) (right : Text) :
    spellOut (left ++ right) = left ++ spellOut right := by
  obtain ⟨backslash, sign⟩ := unmarked
  induction left with
  | nil => rfl
  | cons first rest ih =>
      rw [List.mem_cons, not_or] at backslash
      have notSign : first ∉ signs := fun listed => sign first listed List.mem_cons_self
      have later := ih backslash.2 fun mark listed inside =>
        sign mark listed (List.mem_cons_of_mem first inside)
      have nothing := spelling?_eq_none (Ne.symm backslash.1) notSign (rest ++ right)
      rw [List.cons_append, spellOut]
      simp only [nothing, later, List.cons_append]

theorem isAllBlank_ofLine (line : Text) : Text.isAllBlank (ofLine line) = (ofLine line).isEmpty :=
  Text.isAllBlank_compact _

theorem unmarked_of_blank (blank : ∀ character ∈ text, Text.isBlank character = true) :
    Unmarked text := by
  have visible : ∀ mark ∈ '\\' :: signs, ¬ Text.isBlank mark = true :=
    List.forall_iff_forall_mem.mp (by decide)
  exact unmarked_iff.mpr fun mark listed inside => visible mark listed (blank mark inside)

theorem spellOut_of_spelling? (found : spelling? (command ++ rest) = some (command, spelled)) :
    spellOut (command ++ rest) = spelled ++ spellOut rest := by
  obtain ⟨_, _, starts⟩ := head_spellings (List.mem_of_find?_eq_some found)
  obtain ⟨later, rfl⟩ := List.head?_eq_some_iff.mp starts
  rw [List.cons_append] at found ⊢
  rw [spellOut]
  simp [found]

theorem exists_opener (opens : opensGroup text = true) :
    ∃ opener ∈ groupOpeners, opener.reverse <+: text := by
  unfold opensGroup at opens
  split at opens
  · rename_i rest
    exact ⟨"^".toList, by decide, rest, rfl⟩
  · rename_i rest
    exact ⟨"_".toList, by decide, rest, rfl⟩
  · rename_i rest
    exact ⟨"sqrt".toList, by decide, rest, rfl⟩
  · contradiction

theorem ungrouped_of_unopened
    (free : ∀ opener ∈ groupOpeners, ¬ opener ++ ['{'] <:+: text) : Ungrouped text := by
  rintro before after rfl
  by_contra opens
  obtain ⟨opener, listed, ends⟩ := exists_opener (by simpa using opens)
  obtain ⟨start, rfl⟩ := List.reverse_prefix.mp ends
  exact free opener listed ⟨start, after, by simp⟩

theorem parenthesizeAfter_eq_self (single : ∀ group ∈ groups, group = false)
    (ungrouped : ∀ inner after, text = inner ++ '{' :: after →
      opensGroup (inner.reverse ++ before) = false) :
    parenthesizeAfter before groups text = text := by
  induction text generalizing before groups with
  | nil => rfl
  | cons first rest ih =>
      have later : ∀ inner after, rest = inner ++ '{' :: after →
          opensGroup (inner.reverse ++ first :: before) = false := by
        intro inner after whole
        have inside := ungrouped (first :: inner) after (by rw [whole, List.cons_append])
        rwa [List.reverse_cons, List.append_assoc, List.singleton_append] at inside
      rw [parenthesizeAfter]
      split
      · rename_i opening
        subst opening
        have alone : opensGroup before = false := ungrouped [] rest rfl
        have stays := ih (List.forall_mem_cons.mpr ⟨rfl, single⟩) later
        simp only [alone, Bool.false_eq_true, if_false, stays]
      · split
        · rename_i closing
          subst closing
          have alone : groups.headD false = false := by
            cases groups with
            | nil => rfl
            | cons group outer => exact single group List.mem_cons_self
          have stays := ih (fun group inside => single group (List.mem_of_mem_tail inside)) later
          simp only [alone, Bool.false_eq_true, if_false, stays]
        · rw [ih single later]

theorem parenthesize_eq_self (ungrouped : Ungrouped text) : parenthesize text = text :=
  parenthesizeAfter_eq_self (List.forall_mem_nil _) fun inner after whole => by
    rw [List.append_nil]
    exact ungrouped inner after whole

theorem ofLine_eq_compact {line : Text} (spelled : spellOut line = text)
    (backslash : '\\' ∉ text) (ungrouped : Ungrouped text) : ofLine line = Text.compact text := by
  have kept : text.filter (· != '\\') = text := by
    rw [List.filter_eq_self]
    intro character inside
    rw [bne_iff_ne]
    rintro rfl
    exact backslash inside
  rw [ofLine, spelled, parenthesize_eq_self ungrouped, kept]

/-- A line that is plain already changes in its blanks only, and so does what is read of it. -/
theorem ofLine_respaces {line : Text} (backslash : '\\' ∉ line)
    (sign : ∀ sign ∈ signs, sign ∉ line)
    (group : ∀ opener ∈ groupOpeners, ¬ opener ++ ['{'] <:+: line) :
    ofLine line = Text.compact line ∧
      Equation.parse (ofLine line) = (Equation.parse line).map fun equation =>
        ⟨Text.compact equation.expression, Text.compact equation.constraint⟩ := by
  have spelled : spellOut line = line := by
    have whole := spellOut_append ⟨backslash, sign⟩ []
    rwa [List.append_nil, spellOut, List.append_nil] at whole
  have compacted := ofLine_eq_compact spelled backslash (ungrouped_of_unopened group)
  refine ⟨compacted, ?_⟩
  rw [compacted]
  exact Equation.parse_compact line

/-- Wide blanks and tabs, braces that do not match, and a power without a group. -/
theorem ofLine_respaces_unbalanced :
    let line : Text := "\u3000y\t=  x^2 \x7d\t+ 1\u00a0\x7b a  \x7b<\u2003b \x7d\x7d ".toList
    ofLine line = "y = x^2 \x7d + 1 \x7b a \x7b< b \x7d\x7d".toList ∧
      Equation.parse line = .ok ⟨"x^2 \x7d\t+ 1".toList, "a  \x7b<\u2003b".toList⟩ ∧
      Equation.parse (ofLine line) = .ok ⟨"x^2 \x7d + 1".toList, "a \x7b< b".toList⟩ := by
  intro line
  have read : Equation.parse line =
      .ok ⟨"x^2 \x7d\t+ 1".toList, "a  \x7b<\u2003b".toList⟩ := rfl
  have group : ∀ opener ∈ groupOpeners, Text.contains (opener ++ ['{']) line = false := by decide
  obtain ⟨compacted, reread⟩ := @ofLine_respaces line (by decide)
    (List.forall_iff_forall_mem.mp (by decide)) fun opener listed inside => by
      rw [← Text.contains_iff, group opener listed] at inside
      contradiction
  rw [read] at reread
  exact ⟨compacted.trans (by decide), read, reread.trans (by decide)⟩

end GraphPrograms.Plain
