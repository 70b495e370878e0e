import GraphPrograms.Text.Blank
import Mathlib.Data.List.TakeWhile

/-!
Where the characters of a text come from.

Trimming and splitting bring in no character, and joining brings in its separator.  A mark that a
text is free of therefore stays away.
-/

namespace GraphPrograms.Text

variable {mark character : Char} {text piece line : Text}

theorem trim_subset (text : Text) : trim text ⊆ text := by
  intro character member
  rw [trim, trimEnd, List.mem_reverse] at member
  have inner := (List.dropWhile_sublist _).subset member
  exact (List.dropWhile_sublist _).subset (List.mem_reverse.mp inner)

theorem of_mem_splitOnP {p : Char → Bool} (member : piece ∈ text.splitOnP p)
    (inside : character ∈ piece) : p character = false ∧ character ∈ text := by
  induction text generalizing piece with
  | nil =>
      obtain rfl : piece = [] := by simpa using member
      contradiction
  | cons first rest ih =>
      rw [List.splitOnP_cons_eq_if_modifyHead] at member
      split at member
      · rcases List.mem_cons.mp member with rfl | member
        · contradiction
        · exact (ih member inside).imp_right (List.mem_cons_of_mem first)
      · rename_i passes
        cases pieces : rest.splitOnP p with
        | nil => exact absurd pieces (List.splitOnP_ne_nil p rest)
        | cons head tail =>
            rw [pieces, List.modifyHead_cons, List.mem_cons] at member
            rcases member with rfl | member
            · rcases List.mem_cons.mp inside with rfl | inside
              · exact ⟨by simpa using passes, List.mem_cons_self⟩
              · exact (ih (by simp [pieces]) inside).imp_right (List.mem_cons_of_mem first)
            · exact (ih (by simp [pieces, member]) inside).imp_right (List.mem_cons_of_mem first)

theorem not_mem_of_mem_splitOn (member : piece ∈ text.splitOn mark) : mark ∉ piece := by
  intro inside
  rw [List.splitOn_eq_splitOnP] at member
  simpa using (of_mem_splitOnP member inside).1

theorem subset_of_mem_splitOn (member : piece ∈ text.splitOn mark) : piece ⊆ text := by
  intro character inside
  rw [List.splitOn_eq_splitOnP] at member
  exact (of_mem_splitOnP member inside).2

theorem dropReturn_subset (line : Text) : dropReturn line ⊆ line := by
  unfold dropReturn
  split
  · exact List.dropLast_subset line
  · exact List.Subset.refl line

theorem not_mem_of_mem_lines (member : line ∈ lines text) : '\n' ∉ line := by
  rcases List.mem_append.mp member with ended | last
  · obtain ⟨piece, listed, rfl⟩ := List.mem_map.mp ended
    have free := not_mem_of_mem_splitOn (List.dropLast_subset _ listed)
    exact fun inside => free (dropReturn_subset piece inside)
  · split at last
    · contradiction
    · obtain rfl := List.mem_singleton.mp last
      cases found : (text.splitOn '\n').getLast? with
      | none => simp
      | some piece => exact not_mem_of_mem_splitOn (List.mem_of_getLast? found)

theorem mem_intercalate {separator : Text} {parts : List Text}
    (member : character ∈ separator.intercalate parts) :
    character ∈ separator ∨ ∃ part ∈ parts, character ∈ part := by
  induction parts with
  | nil => contradiction
  | cons first rest ih =>
      by_cases last : rest = []
      · subst last
        exact .inr ⟨first, by simp, by simpa using member⟩
      · rw [List.intercalate_cons_of_ne_nil last, List.append_assoc, List.mem_append,
          List.mem_append] at member
        rcases member with inside | between | later
        · exact .inr ⟨first, by simp, inside⟩
        · exact .inl between
        · exact (ih later).imp_right fun ⟨part, listed, inside⟩ =>
            ⟨part, List.mem_cons_of_mem first listed, inside⟩

theorem ofEndedLines_append (lines : List Text) (last : Text) :
    ofEndedLines lines ++ last = ofLines (lines ++ [last]) := by
  induction lines with
  | nil => simp [ofEndedLines, ofLines]
  | cons line rest ih =>
      rw [ofLines, List.cons_append, List.intercalate_cons_of_ne_nil (by simp), ← ofLines, ← ih]
      simp [ofEndedLines]

/-- Splitting gives ended lines back, and then what is behind the last of them. -/
theorem splitOn_ended {lines : List Text} {last : Text} (free : ∀ line ∈ lines, '\n' ∉ line)
    (freeLast : '\n' ∉ last) : (ofEndedLines lines ++ last).splitOn '\n' = lines ++ [last] := by
  rw [ofEndedLines_append]
  refine List.splitOn_intercalate '\n' (fun line member => ?_) (by simp)
  rcases List.mem_append.mp member with listed | behind
  · exact free line listed
  · rw [List.mem_singleton.mp behind]
    exact freeLast

theorem splitOn_ofEndedLines {lines : List Text} (free : ∀ line ∈ lines, '\n' ∉ line) :
    (ofEndedLines lines).splitOn '\n' = lines ++ [[]] := by
  simpa using splitOn_ended free List.not_mem_nil

/-- The only blanks of a compact text are the spaces between its words. -/
theorem of_mem_compact (member : character ∈ compact text) :
    character = ' ' ∨ isBlank character = false := by
  refine (mem_intercalate member).imp List.mem_singleton.mp ?_
  rintro ⟨word, listed, inside⟩
  exact (of_mem_splitOnP (List.mem_filter.mp listed).1 inside).1

end GraphPrograms.Text
