import GraphPrograms.Proofs.Text.Characters

/-!
The lines of a text, by its ended lines and the rest behind them.

Every text is lines that end with a line feed, and then a rest without one (`exists_ended`).  Lines
that are put behind a text are lines of their own if that rest is empty; otherwise the first of them
becomes part of the last line there was.
-/

namespace GraphPrograms.Text

variable {line last text : Text} {added : List Text}

theorem dropReturn_concat (line : Text) : dropReturn (line ++ ['\r']) = line := by
  rw [dropReturn, if_pos List.getLast?_concat, List.dropLast_concat]

theorem dropReturn_eq_self_iff : dropReturn line = line ↔ line.getLast? ≠ some '\r' := by
  constructor
  · intro same ends
    obtain ⟨start, rfl⟩ := List.getLast?_eq_some_iff.mp ends
    rw [dropReturn_concat] at same
    simp at same
  · exact fun other => if_neg other

theorem dropReturn_or (line : Text) :
    line = dropReturn line ∨ line = dropReturn line ++ ['\r'] := by
  by_cases ends : line.getLast? = some '\r'
  · obtain ⟨start, rfl⟩ := List.getLast?_eq_some_iff.mp ends
    exact .inr (by rw [dropReturn_concat])
  · exact .inl (dropReturn_eq_self_iff.mpr ends).symm

theorem exists_ended (text : Text) : ∃ ended last, text = ofEndedLines ended ++ last ∧
    (∀ line ∈ ended, '\n' ∉ line) ∧ '\n' ∉ last := by
  induction text with
  | nil => exact ⟨[], [], rfl, by simp, by simp⟩
  | cons first rest ih =>
      obtain ⟨ended, last, rfl, free, freeLast⟩ := ih
      by_cases feed : first = '\n'
      · exact ⟨[] :: ended, last, by simp [feed, ofEndedLines], by simpa using free, freeLast⟩
      · cases ended with
        | nil => exact ⟨[], first :: last, rfl, by simp, by simp [freeLast, Ne.symm feed]⟩
        | cons line later =>
            obtain ⟨freeFirst, freeLater⟩ := List.forall_mem_cons.mp free
            refine ⟨(first :: line) :: later, last, by simp [ofEndedLines], ?_, freeLast⟩
            exact List.forall_mem_cons.mpr ⟨by simp [freeFirst, Ne.symm feed], freeLater⟩

theorem lines_ended {ended : List Text} (free : ∀ line ∈ ended, '\n' ∉ line)
    (freeLast : '\n' ∉ last) :
    lines (ofEndedLines ended ++ last) =
      ended.map dropReturn ++ (if last.isEmpty then [] else [last]) := by
  simp only [lines, splitOn_ended free freeLast, List.dropLast_concat, List.getLast?_concat,
    Option.getD_some]

theorem lines_ofEndedLines (free : ∀ line ∈ added, '\n' ∉ line) :
    lines (ofEndedLines added) = added.map dropReturn := by
  simpa using lines_ended free List.not_mem_nil

/-- Ended lines are read as they are if none ends with a carriage return. -/
theorem map_dropReturn_eq_self_iff :
    added.map dropReturn = added ↔ ∀ line ∈ added, line.getLast? ≠ some '\r' := by
  have each := List.map_inj_left (l := added) (f := dropReturn) (g := id)
  rw [List.map_id] at each
  exact each.trans (forall₂_congr fun line _ => dropReturn_eq_self_iff)

/-- A text whose last line is ended, if it has one. -/
def Ended (text : Text) : Prop := text = [] ∨ text.getLast? = some '\n'

theorem ended_append_iff (ended : List Text) (freeLast : '\n' ∉ last) :
    Ended (ofEndedLines ended ++ last) ↔ last = [] := by
  constructor
  · rintro (empty | feed)
    · exact (List.append_eq_nil_iff.mp empty).2
    · rcases List.eq_nil_or_concat last with none | ⟨start, final, rfl⟩
      · exact none
      · simp only [List.concat_eq_append, ← List.append_assoc, List.getLast?_concat,
          Option.some.injEq] at feed
        simp [feed] at freeLast
  · rintro rfl
    rcases List.eq_nil_or_concat ended with rfl | ⟨start, line, rfl⟩
    · exact .inl rfl
    · exact .inr (by simp [ofEndedLines])

/-- Ended lines put behind a text are read behind its lines if it is ended itself, and as they are
if none of them ends with a carriage return. -/
theorem lines_append_iff (text : Text) (free : ∀ line ∈ added, '\n' ∉ line) (present : added ≠ []) :
    lines (text ++ ofEndedLines added) = lines text ++ added ↔
      Ended text ∧ ∀ line ∈ added, line.getLast? ≠ some '\r' := by
  obtain ⟨ended, last, rfl, freeEnded, freeLast⟩ := exists_ended text
  rw [ended_append_iff ended freeLast, ← map_dropReturn_eq_self_iff, lines_ended freeEnded freeLast]
  by_cases rest : last = []
  · have joined : ofEndedLines ended ++ last ++ ofEndedLines added =
        ofEndedLines (ended ++ added) := by simp [rest, ofEndedLines]
    rw [joined, lines_ofEndedLines (List.forall_mem_append.mpr ⟨freeEnded, free⟩)]
    simp [rest]
  · obtain ⟨first, later, rfl⟩ := List.exists_cons_of_ne_nil present
    obtain ⟨freeFirst, freeLater⟩ := List.forall_mem_cons.mp free
    have joined : ofEndedLines ended ++ last ++ ofEndedLines (first :: later) =
        ofEndedLines (ended ++ (last ++ first) :: later) := by simp [ofEndedLines]
    have freeJoined : '\n' ∉ last ++ first := by simp [freeLast, freeFirst]
    rw [joined, lines_ofEndedLines (List.forall_mem_append.mpr
      ⟨freeEnded, List.forall_mem_cons.mpr ⟨freeJoined, freeLater⟩⟩)]
    -- The rest has become part of the first line, so there is a line less.
    refine iff_of_false (fun same => ?_) (fun both => rest both.1)
    have lengths := congrArg List.length same
    simp [rest] at lengths

end GraphPrograms.Text
