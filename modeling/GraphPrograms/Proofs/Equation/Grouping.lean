import GraphPrograms.Proofs.Equation.Plain

/-!
Which braces of a text become parentheses.

The pass over a text keeps of every open brace whether it opened a group (`openGroups`).  A text
whose braces match leaves these as they were, so the innermost one belongs to the brace that the
next closing brace matches.  A closing brace is therefore exchanged exactly if the brace that it
matches is, and braces that are properly nested stay so.
-/

namespace GraphPrograms.Plain

variable {before made text left right outer : Text} {groups : List Bool} {character : Char}

/-- A brace behind the text opens a group. -/
def Opens (text : Text) : Prop := ∃ opener ∈ groupOpeners, opener <:+ text

/-- A text whose braces match each other. -/
inductive Balanced : Text → Prop where
  | empty : Balanced []
  | other {character : Char} {rest : Text} (notOpening : character ≠ '{')
      (notClosing : character ≠ '}') (behind : Balanced rest) : Balanced (character :: rest)
  | pair {inner rest : Text} (inside : Balanced inner) (behind : Balanced rest) :
      Balanced ('{' :: (inner ++ '}' :: rest))

/-- A closing brace behind the text matches the opening brace behind `outer`. -/
inductive Matches (outer : Text) : Text → Prop where
  | across {inner : Text} (inside : Balanced inner) : Matches outer (outer ++ '{' :: inner)

/-- Open groups, innermost first, each with the brace that waits to be closed. -/
inductive Stacked : Text → List Bool → Prop where
  | bottom {text : Text} : Stacked text []
  | push {outer inner : Text} {group : Bool} {groups : List Bool} (below : Stacked outer groups)
      (inside : Balanced inner) : Stacked (outer ++ '{' :: inner) (group :: groups)

/-- Braces and parentheses of which each closes the innermost one that is open. -/
inductive Nested : Text → Prop where
  | empty : Nested []
  | braces {inner rest : Text} (inside : Nested inner) (behind : Nested rest) :
      Nested ('{' :: (inner ++ '}' :: rest))
  | parentheses {inner rest : Text} (inside : Nested inner) (behind : Nested rest) :
      Nested ('(' :: (inner ++ ')' :: rest))

/-- What stands in a text that was made of another one where that one has its braces. -/
def braceMarks (text made : Text) : Text :=
  ((text.zip made).filter fun pair => pair.1 = '{' ∨ pair.1 = '}').map Prod.snd

/-- What is made of a character behind `before`, which is given from its end. -/
def exchanged (before : Text) (groups : List Bool) (character : Char) : Char :=
  if character = '{' then if opensGroup before then '(' else '{'
  else if character = '}' then if groups.headD false then ')' else '}'
  else character

/-- The groups that are open behind a character. -/
def groupsBehind (before : Text) (groups : List Bool) (character : Char) : List Bool :=
  if character = '{' then opensGroup before :: groups
  else if character = '}' then groups.tail
  else groups

/-- The groups that are open behind a text. -/
def openGroups : Text → List Bool → Text → List Bool
  | _, groups, [] => groups
  | before, groups, first :: rest =>
      openGroups (exchanged before groups first :: before) (groupsBehind before groups first) rest

theorem parenthesizeAfter_cons (before : Text) (groups : List Bool) (first : Char) (rest : Text) :
    parenthesizeAfter before groups (first :: rest) =
      exchanged before groups first ::
        parenthesizeAfter (exchanged before groups first :: before)
          (groupsBehind before groups first) rest := by
  rw [parenthesizeAfter, exchanged, groupsBehind]
  split
  · rfl
  · split <;> rfl

theorem exchanged_other (notOpening : character ≠ '{') (notClosing : character ≠ '}') :
    exchanged before groups character = character := by
  rw [exchanged, if_neg notOpening, if_neg notClosing]

theorem exchanged_eq_opening_iff :
    exchanged before groups character = '{' ↔ character = '{' ∧ opensGroup before = false := by
  unfold exchanged
  split
  · rename_i opening
    cases opensGroup before <;> simp [opening]
  · rename_i notOpening
    split
    · cases groups.headD false <;> simp [notOpening]
    · simp [notOpening]

theorem groupsBehind_other (notOpening : character ≠ '{') (notClosing : character ≠ '}') :
    groupsBehind before groups character = groups := by
  rw [groupsBehind, if_neg notOpening, if_neg notClosing]

theorem parenthesizeAfter_append (before : Text) (groups : List Bool) (left right : Text) :
    parenthesizeAfter before groups (left ++ right) =
      parenthesizeAfter before groups left ++
        parenthesizeAfter ((parenthesizeAfter before groups left).reverse ++ before)
          (openGroups before groups left) right := by
  induction left generalizing before groups with
  | nil => rfl
  | cons first rest ih =>
      simp only [List.cons_append, parenthesizeAfter_cons, openGroups, ih, List.reverse_cons,
        List.append_assoc, List.nil_append]

theorem openGroups_append (before : Text) (groups : List Bool) (left right : Text) :
    openGroups before groups (left ++ right) =
      openGroups ((parenthesizeAfter before groups left).reverse ++ before)
        (openGroups before groups left) right := by
  induction left generalizing before groups with
  | nil => rfl
  | cons first rest ih =>
      simp only [List.cons_append, parenthesizeAfter_cons, openGroups, ih, List.reverse_cons,
        List.append_assoc, List.nil_append]

theorem length_parenthesizeAfter (before : Text) (groups : List Bool) (text : Text) :
    (parenthesizeAfter before groups text).length = text.length := by
  induction text generalizing before groups with
  | nil => rfl
  | cons first rest ih => rw [parenthesizeAfter_cons, List.length_cons, ih, List.length_cons]

section Openers

/-- A parenthesis read as a brace. -/
def asBrace (character : Char) : Char :=
  if character = '(' then '{' else if character = ')' then '}' else character

theorem asBrace_exchanged : asBrace (exchanged before groups character) = asBrace character := by
  unfold exchanged
  split
  · rename_i opening
    rw [opening]
    split <;> rfl
  · split
    · rename_i closing
      rw [closing]
      split <;> rfl
    · rfl

theorem map_asBrace_parenthesizeAfter (before : Text) (groups : List Bool) (text : Text) :
    (parenthesizeAfter before groups text).map asBrace = text.map asBrace := by
  induction text generalizing before groups with
  | nil => rfl
  | cons first rest ih =>
      rw [parenthesizeAfter_cons, List.map_cons, List.map_cons, asBrace_exchanged, ih]

theorem opensGroup_iff : opensGroup text = true ↔ Opens text.reverse := by
  constructor
  · intro opens
    obtain ⟨opener, listed, starts⟩ := exists_opener opens
    exact ⟨opener, listed, by rwa [← List.reverse_prefix, List.reverse_reverse]⟩
  · rintro ⟨opener, listed, ends⟩
    obtain ⟨rest, whole⟩ := ends
    obtain rfl : text = opener.reverse ++ rest.reverse := by
      rw [← List.reverse_append, whole, List.reverse_reverse]
    simp only [groupOpeners, List.mem_cons, List.not_mem_nil, or_false] at listed
    rcases listed with rfl | rfl | rfl <;> rfl

theorem asBrace_eq_iff {mark : Char} (other : mark ∉ "(\x7b)\x7d".toList) :
    asBrace character = mark ↔ character = mark := by
  grind [asBrace]

theorem isBlank_asBrace (character : Char) :
    Text.isBlank (asBrace character) = Text.isBlank character := by
  unfold asBrace
  split
  · rename_i opening
    rw [opening]
    decide
  · split
    · rename_i closing
      rw [closing]
      decide
    · rfl

/-- What opens a group has no braces, so it is there before the pass and after it. -/
theorem opens_map_asBrace : Opens (text.map asBrace) ↔ Opens text := by
  have others : ∀ opener ∈ groupOpeners, opener.Forall (· ∉ "(\x7b)\x7d".toList) := by decide
  have fixed : ∀ opener ∈ groupOpeners, opener.map asBrace = opener := by decide
  constructor
  · rintro ⟨opener, listed, ends⟩
    obtain ⟨source, sourceEnds, rfl⟩ := List.suffix_map_iff.mp ends
    have same : source.map asBrace = source := by
      refine (List.map_congr_left (g := id) fun mark inside => ?_).trans (List.map_id source)
      have image := List.mem_map_of_mem (f := asBrace) inside
      have other := List.forall_iff_forall_mem.mp (others _ listed) _ image
      exact ((asBrace_eq_iff other).mp rfl).symm
    exact ⟨_, listed, same.symm ▸ sourceEnds⟩
  · rintro ⟨opener, listed, ends⟩
    exact ⟨opener, listed, fixed opener listed ▸ ends.map asBrace⟩

theorem opensGroup_parenthesize (text : Text) :
    opensGroup (parenthesize text).reverse = opensGroup text.reverse := by
  rw [Bool.eq_iff_iff, opensGroup_iff, opensGroup_iff, List.reverse_reverse, List.reverse_reverse,
    ← opens_map_asBrace, parenthesize, map_asBrace_parenthesizeAfter, opens_map_asBrace]

end Openers

section Matching

theorem Balanced.append (balanced : Balanced left) (also : Balanced right) :
    Balanced (left ++ right) := by
  induction balanced with
  | empty => exact also
  | other notOpening notClosing _ ih => exact .other notOpening notClosing ih
  | pair inside _ _ ih =>
      rw [List.cons_append, List.append_assoc, List.cons_append]
      exact .pair inside ih

theorem Balanced.openGroups_eq (balanced : Balanced text) (before : Text) (groups : List Bool) :
    openGroups before groups text = groups := by
  induction balanced generalizing before groups with
  | empty => rfl
  | other notOpening notClosing _ ih =>
      rw [openGroups, groupsBehind_other notOpening notClosing, ih]
  | pair _ _ inside behind =>
      rw [openGroups, openGroups_append, inside, openGroups, behind]
      rfl

theorem openGroups_concat (text : Text) (character : Char) :
    openGroups [] [] (text ++ [character]) =
      groupsBehind (parenthesize text).reverse (openGroups [] [] text) character := by
  rw [openGroups_append, List.append_nil]
  rfl

theorem Matches.openGroups_eq (matched : Matches outer text) :
    openGroups [] [] text = opensGroup outer.reverse :: openGroups [] [] outer := by
  obtain ⟨inside⟩ := matched
  rw [openGroups_append, openGroups, inside.openGroups_eq, List.append_nil,
    ← opensGroup_parenthesize]
  rfl

theorem stacked_openGroups (text : Text) : Stacked text (openGroups [] [] text) := by
  induction text using List.reverseRecOn with
  | nil => exact .bottom
  | append_singleton start last ih =>
      rw [openGroups_concat]
      generalize openGroups [] [] start = groups at ih ⊢
      by_cases opening : last = '{'
      · subst opening
        exact .push ih .empty
      · by_cases closing : last = '}'
        · -- The innermost group is closed, so it lies inside of the one around it.
          subst closing
          cases ih with
          | bottom => exact .bottom
          | push below inside =>
              cases below with
              | bottom => exact .bottom
              | push deeper around =>
                  rw [List.append_assoc, List.append_assoc]
                  exact .push deeper (around.append (.pair inside .empty))
        · rw [groupsBehind_other opening closing]
          cases ih with
          | bottom => exact .bottom
          | push below inside =>
              rw [List.append_assoc]
              exact .push below (inside.append (.other opening closing .empty))

theorem exists_matches (opened : openGroups [] [] text ≠ []) : ∃ outer, Matches outer text := by
  have stacked := stacked_openGroups text
  generalize openGroups [] [] text = groups at opened stacked
  cases stacked with
  | bottom => contradiction
  | push _ inside => exact ⟨_, .across inside⟩

end Matching

section Positions

theorem exists_parenthesize_append (before after : Text) (character : Char) :
    ∃ rest, parenthesize (before ++ character :: after) = parenthesize before ++
      exchanged (parenthesize before).reverse (openGroups [] [] before) character :: rest := by
  rw [parenthesize, parenthesizeAfter_append, parenthesizeAfter_cons, List.append_nil]
  exact ⟨_, rfl⟩

theorem getElem?_parenthesize (before after : Text) (character : Char) :
    (parenthesize (before ++ character :: after))[before.length]? =
      some (exchanged (parenthesize before).reverse (openGroups [] [] before) character) := by
  obtain ⟨rest, whole⟩ := exists_parenthesize_append before after character
  have length : (parenthesize before).length = before.length := length_parenthesizeAfter [] [] before
  rw [whole, ← length, List.getElem?_append_right (Nat.le_refl _), Nat.sub_self, List.getElem?_cons_zero]

theorem getElem?_parenthesize_opening (before after : Text) :
    (parenthesize (before ++ '{' :: after))[before.length]? =
      some (if opensGroup before.reverse then '(' else '{') := by
  rw [getElem?_parenthesize, ← opensGroup_parenthesize]
  rfl

theorem getElem?_parenthesize_closing (before after : Text) :
    (parenthesize (before ++ '}' :: after))[before.length]? =
      some (if (openGroups [] [] before).headD false then ')' else '}') :=
  getElem?_parenthesize before after '}'

theorem getElem?_parenthesize_matched (matched : Matches outer before) (after : Text) :
    (parenthesize (before ++ '}' :: after))[before.length]? =
      if (parenthesize (before ++ '}' :: after))[outer.length]? = some '(' then some ')'
      else some '}' := by
  rw [getElem?_parenthesize_closing, matched.openGroups_eq, List.headD_cons]
  obtain ⟨inside⟩ := matched
  rw [List.append_assoc, List.cons_append, getElem?_parenthesize_opening]
  split <;> simp

theorem getElem?_parenthesize_unmatched (unmatched : ∀ outer, ¬ Matches outer before)
    (after : Text) : (parenthesize (before ++ '}' :: after))[before.length]? = some '}' := by
  have nothing : openGroups [] [] before = [] := by
    by_contra opened
    obtain ⟨outer, matched⟩ := exists_matches opened
    exact unmatched outer matched
  rw [getElem?_parenthesize_closing, nothing]
  rfl

end Positions

section Nesting

theorem braceMarks_cons (first mark : Char) (text made : Text) :
    braceMarks (first :: text) (mark :: made) =
      if first = '{' ∨ first = '}' then mark :: braceMarks text made else braceMarks text made := by
  simp only [braceMarks, List.zip_cons_cons, List.filter_cons, decide_eq_true_eq]
  split <;> rfl

theorem braceMarks_append (length : left.length = made.length) (text more : Text) :
    braceMarks (left ++ text) (made ++ more) = braceMarks left made ++ braceMarks text more := by
  simp only [braceMarks, List.zip_append length, List.filter_append, List.map_append]

theorem Balanced.nested (balanced : Balanced text) (before : Text) (groups : List Bool) :
    Nested (braceMarks text (parenthesizeAfter before groups text)) := by
  -- Matching braces are exchanged together, whatever is open around them.
  induction balanced generalizing before groups with
  | empty => exact .empty
  | other notOpening notClosing _ ih =>
      rw [parenthesizeAfter_cons, braceMarks_cons, if_neg (by simp [notOpening, notClosing])]
      exact ih _ _
  | @pair inner rest balancedInner _ inside behind =>
      -- Behind the inner text the group of this pair is the innermost one again.
      rw [parenthesizeAfter_cons, parenthesizeAfter_append, parenthesizeAfter_cons,
        balancedInner.openGroups_eq, braceMarks_cons, if_pos (.inl rfl),
        braceMarks_append (length_parenthesizeAfter _ _ _).symm, braceMarks_cons,
        if_pos (.inr rfl)]
      have opening : exchanged before groups '{' = if opensGroup before then '(' else '{' := rfl
      have closing : ∀ made, exchanged made (groupsBehind before groups '{') '}' =
          if opensGroup before then ')' else '}' := fun _ => rfl
      rw [opening, closing]
      split
      · exact .parentheses (inside _ _) (behind _ _)
      · exact .braces (inside _ _) (behind _ _)

end Nesting

/-- The braces of groups become parentheses in pairs, and nothing else changes. -/
theorem parenthesize_exchanges_pairs (text : Text) :
    (parenthesize text).length = text.length ∧
      (∀ before character after, text = before ++ character :: after →
        (character ≠ '{' ∧ character ≠ '}' →
          (parenthesize text)[before.length]? = some character) ∧
        (character = '{' →
          (Opens before → (parenthesize text)[before.length]? = some '(') ∧
          (¬ Opens before → (parenthesize text)[before.length]? = some '{')) ∧
        (character = '}' →
          (∀ outer, Matches outer before → (parenthesize text)[before.length]? =
            if (parenthesize text)[outer.length]? = some '(' then some ')' else some '}') ∧
          ((∀ outer, ¬ Matches outer before) →
            (parenthesize text)[before.length]? = some '}'))) ∧
      (Balanced text → Nested (braceMarks text (parenthesize text))) := by
  refine ⟨length_parenthesizeAfter _ _ _, ?_, fun balanced => balanced.nested [] []⟩
  rintro before character after rfl
  refine ⟨?_, ?_, ?_⟩
  · rintro ⟨notOpening, notClosing⟩
    rw [getElem?_parenthesize, exchanged_other notOpening notClosing]
  · rintro rfl
    have opens : opensGroup before.reverse = true ↔ Opens before := by
      rw [opensGroup_iff, List.reverse_reverse]
    rw [getElem?_parenthesize_opening, ← opens]
    constructor
    · intro group
      rw [if_pos group]
    · intro single
      rw [if_neg single]
  · rintro rfl
    exact ⟨fun outer matched => getElem?_parenthesize_matched matched after,
      fun unmatched => getElem?_parenthesize_unmatched unmatched after⟩

/-- A power whose braces enclose a pair that opens no group. -/
theorem parenthesize_exchanges_pairs_around :
    let text : Text := "x^\x7ba\x7bb\x7d\x7d".toList
    (Opens "x^".toList ∧ (parenthesize text)[2]? = some '(') ∧
      (¬ Opens "x^\x7ba".toList ∧ (parenthesize text)[4]? = some '{') ∧
      (Matches "x^\x7ba".toList "x^\x7ba\x7bb".toList ∧ (parenthesize text)[6]? = some '}') ∧
      (Matches "x^".toList "x^\x7ba\x7bb\x7d".toList ∧ (parenthesize text)[7]? = some ')') ∧
      Balanced text ∧ Nested (braceMarks text (parenthesize text)) := by
  intro text
  have letter : ∀ {character rest}, character ≠ '{' ∧ character ≠ '}' → Balanced rest →
      Balanced (character :: rest) := fun plain behind => .other plain.1 plain.2 behind
  have inside : Balanced "b".toList := letter (by decide) .empty
  have around : Balanced "a\x7bb\x7d".toList := letter (by decide) (.pair inside .empty)
  have balanced : Balanced text := letter (by decide) (letter (by decide) (.pair around .empty))
  have opens : Opens "x^".toList := ⟨"^".toList, by decide, by decide⟩
  have single : ¬ Opens "x^\x7ba".toList := by
    rintro ⟨opener, listed, ends⟩
    revert opener
    decide
  have inner : Matches "x^\x7ba".toList "x^\x7ba\x7bb".toList := .across inside
  have outer : Matches "x^".toList "x^\x7ba\x7bb\x7d".toList := .across around
  obtain ⟨-, marks, nested⟩ := parenthesize_exchanges_pairs text
  have third := ((marks "x^".toList '{' _ rfl).2.1 rfl).1 opens
  have fifth := ((marks "x^\x7ba".toList '{' _ rfl).2.1 rfl).2 single
  have seventh := ((marks "x^\x7ba\x7bb".toList '}' _ rfl).2.2 rfl).1 _ inner
  have eighth := ((marks "x^\x7ba\x7bb\x7d".toList '}' _ rfl).2.2 rfl).1 _ outer
  rw [fifth, if_neg (by decide)] at seventh
  rw [third, if_pos rfl] at eighth
  exact ⟨⟨opens, third⟩, ⟨single, fifth⟩, ⟨inner, seventh⟩, ⟨outer, eighth⟩, balanced,
    nested balanced⟩

end GraphPrograms.Plain
