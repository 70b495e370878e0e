import GraphPrograms.Proofs.Equation.Plain
import GraphPrograms.Proofs.Equation.Sorting
import GraphPrograms.Proofs.Files.Failing
import GraphPrograms.Proofs.Text.Lines
import GraphPrograms.Storage.Basic

/-!
Writing plain lines to a file, and reading that file as it is.

A plain line has no blanks but single spaces inside, so it has none of the marks that end a line,
and it is blank only if it is empty.  The lines that are written are therefore the ones that are
read back, and they are the lines of the input that count.
-/

namespace GraphPrograms

namespace Text

theorem not_mem_compact {mark : Char} (blank : isBlank mark = true) (visible : mark ≠ ' ')
    (text : Text) : mark ∉ compact text := by
  intro inside
  rcases of_mem_compact inside with space | seen
  · exact visible space
  · rw [blank] at seen
    contradiction

end Text

namespace Sheet

theorem kept_kept (lines : List Text) : kept (kept lines) = kept lines := by
  rw [kept, kept, List.filter_filter]
  simp only [Bool.and_self]

end Sheet

namespace Storage

open Disk

variable {disk after : Disk} {input output : Path} {count : Nat}

/-- The lines that are written are the lines of the input that are not blank. -/
theorem filter_nonempty_ofLine (lines : List Text) :
    (lines.map Plain.ofLine).filter (!·.isEmpty) = Sheet.kept (lines.map Plain.ofLine) := by
  refine List.filter_congr fun line listed => ?_
  obtain ⟨source, _, rfl⟩ := List.mem_map.mp listed
  rw [Plain.isAllBlank_ofLine]

theorem lines_kept_ofLine (lines : List Text) :
    Text.lines (Text.ofEndedLines (Sheet.kept (lines.map Plain.ofLine))) =
      Sheet.kept (lines.map Plain.ofLine) := by
  have free : ∀ line ∈ Sheet.kept (lines.map Plain.ofLine), '\n' ∉ line ∧ '\r' ∉ line := by
    intro line member
    obtain ⟨source, _, rfl⟩ := List.mem_map.mp (Sheet.kept_subset _ member)
    exact ⟨Text.not_mem_compact (by decide) (by decide) _,
      Text.not_mem_compact (by decide) (by decide) _⟩
  rw [Text.lines_ofEndedLines fun line member => (free line member).1,
    Text.map_dropReturn_eq_self_iff]
  exact fun line member ends => (free line member).2 (List.mem_of_getLast? ends)

theorem exists_of_writePlain (written : writePlain disk input output = (after, .ok count)) :
    ∃ content, disk.readText input = .ok content ∧
      disk.replace output (Text.encode (Text.ofEndedLines
        (Sheet.kept ((Text.lines content).map Plain.ofLine)))) = (after, .ok ()) ∧
      count = (Sheet.kept ((Text.lines content).map Plain.ofLine)).length := by
  unfold writePlain readLines at written
  cases read : disk.readText input with
  | error cause => simp [read] at written
  | ok content =>
      simp only [read, if_pos, filter_nonempty_ofLine] at written
      refine ⟨content, rfl, ?_⟩
      split at written
      · rename_i next _ replaced
        cases written
        exact ⟨replaced, rfl⟩
      · simp at written

/-- What was written is read line by line. -/
theorem readLines_of_writePlain (written : writePlain disk input output = (after, .ok count)) :
    ∃ content, disk.readText input = .ok content ∧
      readLines after output false = .ok (Sheet.kept ((Text.lines content).map Plain.ofLine)) ∧
      count = (Sheet.kept ((Text.lines content).map Plain.ofLine)).length := by
  obtain ⟨content, read, replaced, counted⟩ := exists_of_writePlain written
  obtain ⟨name, named⟩ := named_of_replace replaced
  have reread := readText_of_read (named.read_of_replace replaced)
  refine ⟨content, read, ?_, counted⟩
  simp only [readLines, reread, lines_kept_ofLine, Bool.false_eq_true, if_false]

/-- Filtering to a file and loading that gives what filtering while loading gives. -/
theorem load_of_writePlain (written : writePlain disk input output = (after, .ok count)) :
    ∃ filtered loaded, load disk input true = .ok filtered ∧ load after output false = .ok loaded ∧
      loaded.equations = filtered.equations ∧
      loaded.rejects.map Reject.text = filtered.rejects.map Reject.text ∧
      count = loaded.equations.length + loaded.rejects.length := by
  obtain ⟨content, read, reread, rfl⟩ := readLines_of_writePlain written
  have filtered : load disk input true =
      .ok (Sheet.ofLines ((Text.lines content).map Plain.ofLine)) := by
    simp only [load, readLines, read, if_pos, Except.map]
  have loaded : load after output false =
      .ok (Sheet.ofLines (Sheet.kept ((Text.lines content).map Plain.ofLine))) := by
    rw [load, reread, Except.map]
  generalize (Text.lines content).map Plain.ofLine = lines at filtered loaded
  have equations := Sheet.equations_ofLinesFrom 1 (Sheet.kept lines)
  have texts := Sheet.map_text_ofLinesFrom 1 (Sheet.kept lines)
  rw [Sheet.kept_kept] at equations texts
  refine ⟨_, _, filtered, loaded, ?_, ?_, ?_⟩
  · exact equations.trans (Sheet.equations_ofLinesFrom 1 lines).symm
  · exact texts.trans (Sheet.map_text_ofLinesFrom 1 lines).symm
  · have total := Sheet.length_accepted_add (Sheet.kept lines)
    rw [← equations, ← texts, List.length_map] at total
    exact total.symm

/-- Wide blanks, a line separator inside a line, a line that is a command alone, and no line feed
at the end; the output takes the place of a folder. -/
theorem load_of_writePlain_blank :
    let disk : Disk := { root := .folder [
      ("in".toList, .file (Text.encode "\u3000y = x\u2028+ 1\r\n\\left\n\\\\ \t\nno\rne".toList)),
      ("out".toList, .folder [])] }
    let input := Path.ofString "in"
    let output := Path.ofString "out"
    let filtered : Sheet := ⟨[⟨"x + 1".toList, []⟩], [⟨4, "no ne".toList, .noMatch⟩]⟩
    load disk input true = .ok filtered ∧ ∃ after loaded,
      writePlain disk input output = (after, .ok 2) ∧ load after output false = .ok loaded ∧
      loaded.equations = filtered.equations ∧
      loaded.rejects.map Reject.text = filtered.rejects.map Reject.text := by
  intro disk input output filtered
  have sheet : load disk input true = .ok filtered := by decide +kernel
  have succeeded : (writePlain disk input output).2.toOption = some 2 := by decide +kernel
  cases result : writePlain disk input output with
  | mk after outcome =>
      rw [result] at succeeded
      cases outcome with
      | error error => contradiction
      | ok count =>
          cases succeeded
          obtain ⟨before, loaded, first, reread, equations, texts, _⟩ := load_of_writePlain result
          cases sheet.symm.trans first
          exact ⟨sheet, after, loaded, rfl, reread, equations, texts⟩

end Storage

end GraphPrograms
