import GraphPrograms.Proofs.Equation.Settling
import GraphPrograms.Proofs.Storage.Filtering

/-!
Filtering a file of plain lines once more while it is read.

A plain line changes at most once more, and only where a backslash shielded a brace from what would
have made it open a group.  A file of plain lines is therefore read alike with and without filtering
exactly if no line that went into it had such a brace.
-/

namespace GraphPrograms.Storage

open Disk
open Plain (ofLine spellOut Shielded)

theorem readLines_plain (disk : Disk) (path : Path) :
    readLines disk path true = (readLines disk path false).map (List.map ofLine) := by
  unfold readLines
  cases disk.readText path <;> rfl

theorem ofLine_eq_self_kept_iff (lines : List Text) :
    (∀ line ∈ Sheet.kept (lines.map ofLine), ofLine line = line) ↔
      ∀ line ∈ lines, ¬ Shielded (spellOut line) := by
  have blank : ofLine [] = [] := by
    simp [ofLine, spellOut, Plain.parenthesize, Plain.parenthesizeAfter, Text.compact, Text.words]
  simp only [← Plain.ofLine_ofLine_eq_iff]
  constructor
  · intro settled line listed
    by_cases dropped : Text.isAllBlank (ofLine line) = true
    · rw [Plain.isAllBlank_ofLine, List.isEmpty_iff] at dropped
      rw [dropped, blank]
    · refine settled _ (List.mem_filter.mpr ⟨List.mem_map_of_mem listed, ?_⟩)
      simpa using dropped
  · intro settled line kept
    obtain ⟨source, listed, rfl⟩ := List.mem_map.mp (Sheet.kept_subset _ kept)
    exact settled source listed

/-- Filtering again changes a line exactly if a brace was shielded, and never a second time. -/
theorem refiltering_settles_iff (line : Text) (disk : Disk) (input output : Path) :
    ofLine (ofLine line) = Plain.parenthesize (ofLine line) ∧
      (ofLine (ofLine line) = ofLine line ↔ ¬ Shielded (spellOut line)) ∧
      ((∀ opener ∈ Plain.groupOpeners, ¬ opener ++ ['{'] <:+: ofLine line) ↔
        ¬ Shielded (spellOut line)) ∧
      ofLine (ofLine (ofLine line)) = ofLine (ofLine line) ∧
      ∀ after count, writePlain disk input output = (after, .ok count) →
        ∃ content, disk.readText input = .ok content ∧
          (readLines after output true = readLines after output false ↔
            ∀ line ∈ Text.lines content, ¬ Shielded (spellOut line)) ∧
          ((∀ line ∈ Text.lines content, ¬ Shielded (spellOut line)) →
            load after output true = load after output false) := by
  refine ⟨Plain.ofLine_ofLine line, Plain.ofLine_ofLine_eq_iff, ?_, ?_, ?_⟩
  · rw [← Plain.ungrouped_iff_unopened, Plain.ungrouped_ofLine_iff]
  · rw [Plain.ofLine_ofLine (ofLine line),
      Plain.parenthesize_eq_self_iff.mpr (Plain.ungrouped_ofLine_ofLine line)]
  · intro after count written
    obtain ⟨content, read, reread, -⟩ := readLines_of_writePlain written
    have same : readLines after output true = readLines after output false ↔
        ∀ line ∈ Text.lines content, ¬ Shielded (spellOut line) := by
      rw [readLines_plain, reread, ← ofLine_eq_self_kept_iff]
      exact ⟨fun settled => List.map_inj_left.mp ((Except.ok.inj settled).trans (List.map_id _).symm),
        fun settled => congrArg Except.ok ((List.map_inj_left.mpr settled).trans (List.map_id _))⟩
    refine ⟨content, read, same, fun clear => ?_⟩
    rw [load, load, same.mpr clear]

/-- Groups with and without a command before them, and a line that comes to nothing. -/
theorem refiltering_settles_iff_roots :
    let content : Text := "y = x^\x7b2\x7d \\\x7bx \\le 1\\\x7d\n\\left\ny = \\sqrt\x7bx\x7d".toList
    let disk : Disk := { root := .folder [("in".toList, .file (Text.encode content))] }
    (∀ line ∈ Text.lines content, ofLine (ofLine line) = ofLine line ∧
      ¬ Shielded (spellOut line)) ∧
      ∃ after, writePlain disk (.ofString "in") (.ofString "out") = (after, .ok 2) ∧
        load after (.ofString "out") true = load after (.ofString "out") false := by
  intro content disk
  have settled : ∀ line ∈ Text.lines content, ofLine (ofLine line) = ofLine line := by
    decide +kernel
  have clear : ∀ line ∈ Text.lines content, ¬ Shielded (spellOut line) := fun line listed =>
    (refiltering_settles_iff line disk (.ofString "in") (.ofString "out")).2.1.mp
      (settled line listed)
  obtain ⟨-, -, -, -, reloads⟩ :=
    refiltering_settles_iff [] disk (.ofString "in") (.ofString "out")
  have read : disk.readText (.ofString "in") = .ok content := readText_of_read rfl
  have succeeded : (writePlain disk (.ofString "in") (.ofString "out")).2.toOption = some 2 := by
    decide +kernel
  refine ⟨fun line listed => ⟨settled line listed, clear line listed⟩, ?_⟩
  have result := eq_of_toOption succeeded
  obtain ⟨source, again, -, same⟩ := reloads _ _ result
  obtain rfl : content = source := Except.ok.inj (read.symm.trans again)
  exact ⟨_, result, same clear⟩

/-- Behind a backslash that belongs to no command, a brace after a power is left the first time and
opens a group the second time. -/
theorem shielded_brace_unsettles :
    let line : Text := "y = x^\\\\\x7b2\x7d".toList
    let disk : Disk := { root := .folder [("in".toList, .file (Text.encode line))] }
    let written := writePlain disk (.ofString "in") (.ofString "out")
    ofLine line = "y = x^\x7b2\x7d".toList ∧ "^\x7b".toList <:+: ofLine line ∧
      ofLine (ofLine line) = "y = x^(2)".toList ∧ written.2 = .ok 1 ∧
      load written.1 (.ofString "out") false =
        .ok ⟨[⟨"x^".toList, "2".toList⟩], []⟩ ∧
      load written.1 (.ofString "out") true = .ok ⟨[⟨"x^(2)".toList, []⟩], []⟩ := by
  decide +kernel

end GraphPrograms.Storage
