import GraphPrograms.Proofs.Text.Trim

/-!
Laws of compaction.

A visible character stays, and at most one space stands between it and what follows
(`compact_cons`).  From this equation comes that a compact text can be taken apart where the text
itself is: its parts are the compact parts, but for the blank between them
(`exists_padded_append`).
-/

namespace GraphPrograms.Text

variable {character mark : Char} {text blanks : Text}

theorem words_append_blank (blank : isBlank mark = true) (left right : Text) :
    words (left ++ mark :: right) = words left ++ words right := by
  unfold words
  rw [List.splitOnP_append_cons left right blank, List.filter_append]

theorem words_append_visible (visible : isBlank mark = false) {first : Text} {rest : List Text}
    (pieces : text.splitOnP isBlank = first :: rest) :
    words (mark :: text) = (mark :: first) :: rest.filter (!·.isEmpty) := by
  rw [words, List.splitOnP_cons_eq_if_modifyHead, if_neg (by simp [visible]), pieces]
  rfl

theorem compact_eq_nil_iff_words : compact text = [] ↔ words text = [] := by
  rw [compact]
  cases listed : words text with
  | nil => simp
  | cons word rest =>
      have visible : word ≠ [] := by
        have member : word ∈ words text := listed ▸ List.mem_cons_self
        simpa using (List.mem_filter.mp member).2
      cases rest <;> simp [List.intercalate_cons_cons, visible]

theorem compact_cons_blank (blank : isBlank mark = true) (text : Text) :
    compact (mark :: text) = compact text :=
  congrArg [' '].intercalate (words_append_blank blank [] text)

theorem intercalate_cons_cons (first : Char) (word separator : Text) (rest : List Text) :
    separator.intercalate ((first :: word) :: rest) =
      first :: separator.intercalate (word :: rest) := by
  cases rest with
  | nil => simp
  | cons next later => simp only [List.intercalate_cons_cons, List.cons_append]

/-- The space that is left between a visible character and the text behind it. -/
def spaceBefore (text : Text) : Text :=
  if text.head?.any isBlank ∧ compact text ≠ [] then [' '] else []

theorem spaceBefore_cons (visible : isBlank mark = false) (text : Text) :
    spaceBefore (mark :: text) = [] := by
  simp [spaceBefore, visible]

theorem compact_cons (visible : isBlank mark = false) (text : Text) :
    compact (mark :: text) = mark :: (spaceBefore text ++ compact text) := by
  cases text with
  | nil =>
      rw [compact, words_append_visible visible List.splitOnP_nil]
      rfl
  | cons next rest =>
      cases pieces : rest.splitOnP isBlank with
      | nil => exact absurd pieces (List.splitOnP_ne_nil isBlank rest)
      | cons first later =>
          cases blank : isBlank next with
          | true =>
              have alone : words [mark] = [[mark]] := words_append_visible visible List.splitOnP_nil
              have apart : words (mark :: next :: rest) = words [mark] ++ words rest :=
                words_append_blank blank [mark] rest
              rw [compact, apart, alone, compact_cons_blank blank]
              by_cases empty : words rest = []
              · have nothing := compact_eq_nil_iff_words.mpr empty
                simp [spaceBefore, compact_cons_blank blank, empty, nothing]
              · have something := mt compact_eq_nil_iff_words.mp empty
                have space : spaceBefore (next :: rest) = [' '] := by
                  simp [spaceBefore, compact_cons_blank blank, blank, something]
                rw [space, List.singleton_append, List.intercalate_cons_of_ne_nil empty]
                rfl
          | false =>
              have whole : (next :: rest).splitOnP isBlank = (next :: first) :: later := by
                rw [List.splitOnP_cons_eq_if_modifyHead, if_neg (by simp [blank]), pieces]
                rfl
              rw [compact, words_append_visible visible whole, intercalate_cons_cons,
                spaceBefore_cons blank,
                compact, words_append_visible blank pieces]
              rfl

theorem compact_eq_nil_iff : compact text = [] ↔ ∀ character ∈ text, isBlank character = true := by
  induction text with
  | nil => simp [compact, words]
  | cons first rest ih =>
      cases blank : isBlank first with
      | true => rw [compact_cons_blank blank, ih, List.forall_mem_cons, blank]; simp
      | false => simp [compact_cons blank, blank]

theorem compact_append_left (blank : ∀ character ∈ blanks, isBlank character = true)
    (text : Text) : compact (blanks ++ text) = compact text := by
  induction blanks with
  | nil => rfl
  | cons first rest ih =>
      obtain ⟨firstBlank, restBlank⟩ := List.forall_mem_cons.mp blank
      rw [List.cons_append, compact_cons_blank firstBlank, ih restBlank]

theorem compact_append_right (text : Text)
    (blank : ∀ character ∈ blanks, isBlank character = true) :
    compact (text ++ blanks) = compact text := by
  cases blanks with
  | nil => rw [List.append_nil]
  | cons first rest =>
      obtain ⟨firstBlank, restBlank⟩ := List.forall_mem_cons.mp blank
      have empty := compact_eq_nil_iff_words.mp (compact_eq_nil_iff.mpr restBlank)
      rw [compact, words_append_blank firstBlank, empty, List.append_nil, compact]

/-- A text that has blanks put around it. -/
inductive Padded (text : Text) : Text → Prop where
  | around {before after : Text} (blankBefore : ∀ character ∈ before, isBlank character = true)
      (blankAfter : ∀ character ∈ after, isBlank character = true) :
      Padded text (before ++ text ++ after)

theorem padded_trim (text : Text) : Padded (trim text) text := by
  have start : ∀ character ∈ text.takeWhile isBlank, isBlank character = true :=
    fun _ => List.mem_takeWhile_imp
  have ending : ∀ character ∈ ((trimStart text).reverse.takeWhile isBlank).reverse,
      isBlank character = true :=
    fun _ inside => List.mem_takeWhile_imp (List.mem_reverse.mp inside)
  have whole : text.takeWhile isBlank ++ trim text ++
      ((trimStart text).reverse.takeWhile isBlank).reverse = text := by
    rw [trim, trimEnd, List.append_assoc, ← List.reverse_append, List.takeWhile_append_dropWhile,
      List.reverse_reverse, trimStart, List.takeWhile_append_dropWhile]
  have padded : Padded (trim text) _ := .around start ending
  rwa [whole] at padded

theorem Padded.refl (text : Text) : Padded text text := by
  have padded : Padded text _ := .around (List.forall_mem_nil _) (List.forall_mem_nil _)
  rwa [List.nil_append, List.append_nil] at padded

namespace Padded

variable {part : Text} (padded : Padded text part)

include padded

theorem trim_eq : trim part = trim text := by
  obtain ⟨blankBefore, blankAfter⟩ := padded
  rw [trim_append_right _ blankAfter, trim_append_left blankBefore]

theorem compact_eq : compact part = compact text := by
  obtain ⟨blankBefore, blankAfter⟩ := padded
  rw [compact_append_right _ blankAfter, compact_append_left blankBefore]

theorem append_left (blank : ∀ character ∈ blanks, isBlank character = true) :
    Padded text (blanks ++ part) := by
  obtain ⟨blankBefore, blankAfter⟩ := padded
  rw [← List.append_assoc, ← List.append_assoc]
  exact .around (List.forall_mem_append.mpr ⟨blank, blankBefore⟩) blankAfter

theorem not_mem (visible : isBlank mark = false) (free : mark ∉ text) : mark ∉ part := by
  obtain ⟨blankBefore, blankAfter⟩ := padded
  intro inside
  rcases List.mem_append.mp inside with inside | ending
  · rcases List.mem_append.mp inside with start | inner
    · rw [blankBefore mark start] at visible
      contradiction
    · exact free inner
  · rw [blankAfter mark ending] at visible
    contradiction

end Padded

@[simp] theorem compact_trim (text : Text) : compact (trim text) = compact text :=
  (padded_trim text).compact_eq.symm

theorem compact_eq_nil_iff_trim : compact text = [] ↔ trim text = [] := by
  constructor
  · intro nothing
    exact trim_append_right [] (compact_eq_nil_iff.mp nothing)
  · intro nothing
    rw [← compact_trim, nothing]
    rfl

/-- A compact text has no blanks at its ends. -/
@[simp] theorem trim_compact (text : Text) : trim (compact text) = compact text := by
  rw [trim_eq_self_iff]
  induction text with
  | nil => simp [compact, words]
  | cons first rest ih =>
      cases blank : isBlank first with
      | true => rw [compact_cons_blank blank]; exact ih
      | false =>
          rw [compact_cons blank]
          refine ⟨by simp [blank], fun last ends => ?_⟩
          by_cases empty : compact rest = []
          · have alone : spaceBefore rest = [] := by simp [spaceBefore, empty]
            have only : last = first := by simpa [alone, empty, eq_comm] using ends
            rw [only, blank]
          · refine ih.2 last ?_
            rw [← List.cons_append, List.getLast?_append_of_ne_nil _ empty] at ends
            exact ends

theorem isAllBlank_compact (text : Text) : isAllBlank (compact text) = (compact text).isEmpty := by
  have blank : isAllBlank (compact text) = true ↔ compact text = [] := by
    rw [isAllBlank, List.all_eq_true, ← compact_eq_nil_iff, compact_eq_nil_iff_trim, trim_compact]
  rw [Bool.eq_iff_iff, blank, List.isEmpty_iff]

theorem isBlank_head?_compact {first : Char} (starts : (compact text).head? = some first) :
    isBlank first = false := by
  rw [← trim_compact] at starts
  exact isBlank_head?_trim starts

theorem compact_eq_self (visible : ∀ character ∈ text, isBlank character = false) :
    compact text = text := by
  induction text with
  | nil => rfl
  | cons first rest ih =>
      obtain ⟨firstVisible, restVisible⟩ := List.forall_mem_cons.mp visible
      have attached : spaceBefore rest = [] := by
        cases rest with
        | nil => rfl
        | cons next later => exact spaceBefore_cons (restVisible next List.mem_cons_self) later
      rw [compact_cons firstVisible, attached, ih restVisible, List.nil_append]

theorem trim_eq_self (visible : ∀ character ∈ text, isBlank character = false) :
    trim text = text := by
  rw [← compact_eq_self visible, trim_compact]

theorem isBlank_spaceBefore (text : Text) :
    ∀ character ∈ spaceBefore text, isBlank character = true := by
  intro character member
  unfold spaceBefore at member
  split at member
  · rw [List.mem_singleton.mp member]
    decide
  · contradiction

theorem mem_of_mem_compact (visible : isBlank character = false)
    (member : character ∈ compact text) : character ∈ text := by
  induction text with
  | nil => exact member
  | cons first rest ih =>
      cases blank : isBlank first with
      | true =>
          rw [compact_cons_blank blank] at member
          exact List.mem_cons_of_mem first (ih member)
      | false =>
          rw [compact_cons blank, List.mem_cons, List.mem_append] at member
          rcases member with rfl | space | later
          · exact List.mem_cons_self
          · rw [isBlank_spaceBefore rest character space] at visible
            contradiction
          · exact List.mem_cons_of_mem first (ih later)

/-- Appending and compacting go either way round, but for the blank between the parts. -/
theorem exists_compact_append (left right : Text) :
    ∃ gap, (∀ character ∈ gap, isBlank character = true) ∧
      compact (left ++ right) = compact left ++ (gap ++ compact right) := by
  induction left with
  | nil => exact ⟨[], List.forall_mem_nil _, rfl⟩
  | cons first rest ih =>
      obtain ⟨gap, gapBlank, whole⟩ := ih
      cases blank : isBlank first with
      | true =>
          refine ⟨gap, gapBlank, ?_⟩
          rw [List.cons_append, compact_cons_blank blank, whole, compact_cons_blank blank]
      | false =>
          rw [List.cons_append, compact_cons blank, compact_cons blank, whole]
          by_cases empty : compact rest = []
          · refine ⟨spaceBefore (rest ++ right) ++ gap, ?_, ?_⟩
            · exact List.forall_mem_append.mpr
                ⟨isBlank_spaceBefore _, gapBlank⟩
            · have alone : spaceBefore rest = [] := by simp [spaceBefore, empty]
              simp [alone, empty]
          · have same : spaceBefore (rest ++ right) = spaceBefore rest := by
              cases rest with
              | nil => exact absurd rfl empty
              | cons next later =>
                  rw [List.cons_append] at whole
                  simp [spaceBefore, whole, empty]
            exact ⟨gap, gapBlank, by simp [same]⟩

theorem Padded.not_mem_of_compact {part : Text} (padded : Padded (compact text) part)
    (visible : isBlank mark = false) (free : mark ∉ text) : mark ∉ part :=
  padded.not_mem visible (mt (mem_of_mem_compact visible) free)

/-- The first of two parts is compact but for blanks around it, and the second one is compact. -/
theorem exists_padded_append (blank : ∀ character ∈ blanks, isBlank character = true)
    (left right : Text) : ∃ part, Padded (compact left) part ∧
      blanks ++ compact (left ++ right) = part ++ compact right := by
  obtain ⟨gap, gapBlank, whole⟩ := exists_compact_append left right
  refine ⟨_, .around blank gapBlank, ?_⟩
  rw [whole]
  simp only [List.append_assoc]

end GraphPrograms.Text
