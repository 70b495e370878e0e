import GraphPrograms.Proofs.Command.Conservation
import GraphPrograms.Proofs.Equation.Vanishing
import GraphPrograms.Proofs.Storage.Filtering

/-!
The lines of a file that are there after they were made plain.

A line that leaves nothing behind is neither written nor read, like a blank one.  All other lines
are accounted for one by one, so the numbers that are reported are those of the lines with
something on them exactly if none of these vanishes.
-/

namespace GraphPrograms

open Plain (Vanishing)

namespace Sheet

variable {lines : List Text}

/-- The lines that leave something behind when they are made plain. -/
def lasting (lines : List Text) : List Text := lines.filter fun line => ¬ Vanishing line

theorem kept_map_ofLine (lines : List Text) :
    kept (lines.map Plain.ofLine) = (lasting lines).map Plain.ofLine := by
  rw [kept, List.filter_map, lasting]
  refine congrArg _ (List.filter_congr fun line _ => ?_)
  rw [Function.comp_apply, Plain.isAllBlank_ofLine, Bool.eq_iff_iff]
  simp [Plain.ofLine_eq_nil_iff]

/-- Blank lines vanish, so those that last are lines with something on them. -/
theorem lasting_kept (lines : List Text) : lasting (kept lines) = lasting lines := by
  rw [lasting, kept, List.filter_filter]
  refine List.filter_congr fun line _ => ?_
  cases blank : Text.isAllBlank line with
  | false => simp
  | true => simp [Vanishing.of_isAllBlank blank]

/-- As many lines last as there are with something on them exactly if none of these vanishes. -/
theorem length_lasting_eq_iff : (lasting lines).length = (kept lines).length ↔
    ∀ line ∈ lines, Vanishing line → Text.isAllBlank line = true := by
  rw [← lasting_kept, lasting, List.length_filter_eq_length_iff]
  simp only [kept, List.mem_filter, Bool.not_eq_eq_eq_not, Bool.not_true, decide_eq_true_eq]
  constructor
  · intro last line listed vanishing
    by_contra visible
    exact last line ⟨listed, Bool.eq_false_iff.mpr visible⟩ vanishing
  · intro blank line kept vanishing
    rw [blank line kept.1 vanishing] at kept
    simp at kept

end Sheet

namespace Storage

open Disk

variable {disk : Disk} {input output : Path} {content : Text}

/-- Every line that leaves something behind is an equation, a reject and a line of the plain file,
and no other line is. -/
theorem plain_lines_last (read : disk.readText input = .ok content) :
    let lines := Text.lines content
    let plain := (Sheet.lasting lines).map Plain.ofLine
    (∀ line, Plain.ofLine line = [] ↔ Vanishing line) ∧
      (∃ sheet, load disk input true = .ok sheet ∧
        sheet.equations = Sheet.accepted plain ∧
        sheet.rejects.map Reject.text = Sheet.rejected plain ∧
        (sheet.equations.length + sheet.rejects.length = (Sheet.kept lines).length ↔
          ∀ line ∈ lines, Vanishing line → Text.isAllBlank line = true)) ∧
      ∀ after count, writePlain disk input output = (after, .ok count) →
        readLines after output false = .ok plain ∧ count = plain.length ∧
          (count = (Sheet.kept lines).length ↔
            ∀ line ∈ lines, Vanishing line → Text.isAllBlank line = true) := by
  intro lines plain
  have kept : Sheet.kept (lines.map Plain.ofLine) = plain := Sheet.kept_map_ofLine lines
  have length : plain.length = (Sheet.lasting lines).length := List.length_map _
  refine ⟨fun line => Plain.ofLine_eq_nil_iff, ?_, ?_⟩
  · have equations := Sheet.equations_ofLinesFrom 1 (lines.map Plain.ofLine)
    have texts := Sheet.map_text_ofLinesFrom 1 (lines.map Plain.ofLine)
    have total := Sheet.length_accepted_add plain
    rw [kept] at equations texts
    refine ⟨_, load_of_readText read true, equations, texts, ?_⟩
    rw [← equations, ← texts, List.length_map, length] at total
    rw [← Sheet.length_lasting_eq_iff, ← total]
    rfl
  · intro after count written
    obtain ⟨source, again, reread, counted⟩ := readLines_of_writePlain written
    obtain rfl : content = source := Except.ok.inj (read.symm.trans again)
    rw [kept] at reread counted
    refine ⟨reread, counted, ?_⟩
    rw [counted, length, Sheet.length_lasting_eq_iff]

/-- Commands alone on a line, a blank line, and backslashes around a space. -/
theorem plain_lines_last_two :
    let content : Text := "\\left \\right\n\t\ny = x\n\\\\ \\,\n no".toList
    let disk : Disk := { root := .folder [("in".toList, .file (Text.encode content))] }
    disk.readText (.ofString "in") = .ok content ∧
      Sheet.lasting (Text.lines content) = ["y = x".toList, " no".toList] ∧
      (∃ sheet, load disk (.ofString "in") true = .ok sheet ∧
        sheet.equations.length + sheet.rejects.length ≠
          (Sheet.kept (Text.lines content)).length) ∧
      ∃ after, writePlain disk (.ofString "in") (.ofString "out") = (after, .ok 2) ∧
        readLines after (.ofString "out") false = .ok ["y = x".toList, "no".toList] := by
  intro content disk
  have read : disk.readText (.ofString "in") = .ok content := readText_of_read rfl
  have lasting : Sheet.lasting (Text.lines content) = ["y = x".toList, " no".toList] := by
    decide +kernel
  have vanishes : ¬ ∀ line ∈ Text.lines content,
      Vanishing line → Text.isAllBlank line = true := by decide +kernel
  have succeeded : (writePlain disk (.ofString "in") (.ofString "out")).2.toOption = some 2 := by
    decide +kernel
  obtain ⟨-, ⟨sheet, loaded, -, -, counted⟩, written⟩ := plain_lines_last read
  refine ⟨read, lasting, ⟨sheet, loaded, mt counted.mp vanishes⟩, ?_⟩
  have result := eq_of_toOption succeeded
  obtain ⟨reread, -, -⟩ := written _ _ result
  rw [lasting] at reread
  exact ⟨_, result, reread.trans (by decide +kernel)⟩

/-- A command without a trace is a line that is neither read nor written. -/
theorem command_vanishes :
    let disk : Disk := { root := .folder [("in".toList, .file (Text.encode "\\left\n".toList))] }
    Text.isAllBlank "\\left".toList = false ∧ Plain.ofLine "\\left".toList = [] ∧
      load disk (.ofString "in") true = .ok ⟨[], []⟩ ∧
      (writePlain disk (.ofString "in") (.ofString "out")).2 = .ok 0 := by
  decide +kernel

end Storage

end GraphPrograms
