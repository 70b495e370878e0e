import GraphPrograms.Command.Basic
import GraphPrograms.Proofs.Equation.Sorting
import GraphPrograms.Proofs.Program.Layout
import GraphPrograms.Proofs.Storage.Saving

/-!
A conversion loses no line of its input and writes none twice.

The stages of a conversion are followed from disk to disk: the rejects are appended, the folder is
made, the programs are written.  Each stage says what it puts at its own place and that all other
files stay, so what the earlier stages wrote is there in the end if the files are different ones.
-/

namespace GraphPrograms

namespace Storage

variable {disk after : Disk} {path : Path} {plain : Bool} {content : Text}

/-- The lines that are read from a file of a given content. -/
def linesOf (plain : Bool) (content : Text) : List Text :=
  if plain then (Text.lines content).map Plain.ofLine else Text.lines content

theorem readLines_of_readText (read : disk.readText path = .ok content) (plain : Bool) :
    readLines disk path plain = .ok (linesOf plain content) := by
  rw [readLines, read, linesOf]

theorem load_of_readText (read : disk.readText path = .ok content) (plain : Bool) :
    load disk path plain = .ok (Sheet.ofLines (linesOf plain content)) := by
  rw [load, readLines_of_readText read, Except.map]

end Storage

/-- The text of a file is its lines with line feeds between them. -/
theorem Disk.readText_of_splitOn {disk : Disk} {path : Path} {lines : List Text}
    (split : (disk.readText path).map (·.splitOn '\n') = .ok lines) :
    disk.readText path = .ok (Text.ofLines lines) := by
  cases read : disk.readText path with
  | error cause =>
      rw [read] at split
      contradiction
  | ok content =>
      rw [read] at split
      have whole : content.splitOn '\n' = lines := Except.ok.inj split
      rw [← whole, Text.ofLines, List.intercalate_splitOn]

/-- The last line of a report has the numbers. -/
theorem Sheet.exists_report (sheet : Sheet) : ∃ above, sheet.report = Text.ofEndedLines (above ++
    [Text.ofNat sheet.equations.length ++ " equations, ".toList ++
      Text.ofNat sheet.rejects.length ++ " rejected".toList]) := ⟨_, rfl⟩

namespace Command

variable {disk loaded after : Disk} {settings : Settings} {content : Text} {sheet : Sheet}
  {conversion : Conversion}

/-- The disk on which a conversion writes programs: the rejects are saved, and the folder is
made. -/
def prepared (disk : Disk) (settings : Settings) : Disk :=
  ((loadSheet disk settings).1.makeFolders settings.layout.folder).1

/-- The files of a conversion are different ones, and no folder is in the way of a program. -/
structure Apart (disk : Disk) (settings : Settings) (programs : List Path) : Prop where
  different : ((settings.input :: settings.rejects :: programs).map disk.filePlace?).Nodup
  clear : ∀ path ∈ programs, disk.isFolder path = false

namespace Apart

variable {programs : List Path} (apart : Apart disk settings programs)

include apart

theorem input_ne_rejects : disk.filePlace? settings.input ≠ disk.filePlace? settings.rejects :=
  fun same => (List.nodup_cons.mp apart.different).1 (same ▸ List.mem_cons_self)

theorem input_not_mem : disk.filePlace? settings.input ∉ programs.map disk.filePlace? :=
  fun member => (List.nodup_cons.mp apart.different).1 (List.mem_cons_of_mem _ member)

theorem rejects_not_mem : disk.filePlace? settings.rejects ∉ programs.map disk.filePlace? :=
  (List.nodup_cons.mp (List.nodup_cons.mp apart.different).2).1

theorem nodup : (programs.map disk.filePlace?).Nodup :=
  (List.nodup_cons.mp (List.nodup_cons.mp apart.different).2).2

end Apart

/-- What is done one after the other when a conversion succeeds. -/
structure Stages (disk loaded after : Disk) (settings : Settings) (sheet : Sheet)
    (conversion : Conversion) : Prop where
  load : Storage.load disk settings.input settings.plain = .ok sheet
  save : Storage.appendRejects disk settings.rejects sheet.rejects = (loaded, .ok ())
  write : Storage.writePrograms loaded settings.layout
    (Chunk.ofEquations sheet.equations (.blank sheet.equations.length)) =
      (after, .ok conversion.written)
  equationCount : conversion.equationCount = sheet.equations.length
  rejectCount : conversion.rejectCount = sheet.rejects.length
  rejects : conversion.rejects = settings.rejects

theorem exists_stages (converted : convert disk settings = (after, .ok conversion)) :
    ∃ loaded sheet, Stages disk loaded after settings sheet conversion := by
  unfold convert at converted
  split at converted
  · simp at converted
  · rename_i loaded sheet load
    split at converted
    · simp at converted
    · rename_i written paths write
      cases converted
      unfold loadSheet at load
      split at load
      · simp at load
      · rename_i sheet' parsed
        split at load
        · rename_i saved _ save
          cases load
          exact ⟨loaded, sheet, parsed, save, write, rfl, rfl, rfl⟩
        · simp at load

namespace Stages

variable (stages : Stages disk loaded after settings sheet conversion)
  (grounded : disk.Grounded)

include stages

theorem sheet_eq (read : disk.readText settings.input = .ok content) :
    sheet = Sheet.ofLines (Storage.linesOf settings.plain content) :=
  Except.ok.inj (stages.load.symm.trans (Storage.load_of_readText read settings.plain))

theorem equations_eq (read : disk.readText settings.input = .ok content) :
    sheet.equations = Sheet.accepted (Sheet.kept (Storage.linesOf settings.plain content)) := by
  rw [stages.sheet_eq read]
  exact Sheet.equations_ofLinesFrom 1 _

theorem map_text_rejects (read : disk.readText settings.input = .ok content) :
    sheet.rejects.map Reject.text =
      Sheet.rejected (Sheet.kept (Storage.linesOf settings.plain content)) := by
  rw [stages.sheet_eq read]
  exact Sheet.map_text_ofLinesFrom 1 _

theorem check_before : check disk settings = .ok sheet := by
  rw [check, stages.load, Except.mapError]

theorem written_eq : conversion.written =
    (List.range' 1 (sheet.equations.length ⌈/⌉ 10)).map settings.layout.pathFor := by
  have numbers := Chunk.map_number_ofEquations sheet.equations (.blank sheet.equations.length)
  have counted : Chunk.countFor sheet.equations.length = sheet.equations.length ⌈/⌉ 10 := rfl
  rw [Storage.paths_of_writePrograms stages.write, ← counted, ← numbers, List.map_map]
  rfl

theorem prepared_eq : prepared disk settings = (loaded.makeFolders settings.layout.folder).1 := by
  rw [prepared, loadSheet, stages.load]
  simp only [stages.save]

theorem summary_eq : conversion.summary =
    "Created ".toList ++ Text.ofNat (sheet.equations.length ⌈/⌉ 10) ++
      " program files from ".toList ++ Text.ofNat sheet.equations.length ++ " equations.".toList ++
      (if 0 < sheet.rejects.length then [' '] ++ Text.ofNat sheet.rejects.length ++
        " rejected lines appended to ".toList ++ settings.rejects.text ++ ['.'] else []) := by
  have length : conversion.written.length = sheet.equations.length ⌈/⌉ 10 := by
    rw [stages.written_eq, List.length_map, List.length_range']
  unfold Conversion.summary
  simp only [length, stages.equationCount, stages.rejectCount, stages.rejects]

theorem grows_prepared : loaded.Grows (prepared disk settings) := by
  rw [stages.prepared_eq]
  exact Disk.grows_makeFolders loaded _

include grounded

theorem keeps_loaded : disk.Keeps loaded := Storage.keeps_of_appendRejects grounded stages.save

theorem keeps_prepared : disk.Keeps (prepared disk settings) :=
  (stages.keeps_loaded grounded).trans stages.grows_prepared.toKeeps

variable (apart : Apart (prepared disk settings) settings conversion.written)

include apart

theorem keeps : disk.Keeps after := by
  have keeps := stages.keeps_loaded grounded
  rw [stages.prepared_eq] at apart
  exact keeps.trans <|
    Storage.keeps_of_writePrograms (keeps.grounded grounded) apart.clear apart.nodup stages.write

/-- All files but the rejects and the programs stay. -/
theorem file {place : Place}
    (notProgram : some place ∉ conversion.written.map (prepared disk settings).filePlace?)
    (notRejects : sheet.rejects ≠ [] →
      some place ≠ (prepared disk settings).filePlace? settings.rejects) (content : ByteArray) :
    after.kind? place = some (.file content) ↔ disk.kind? place = some (.file content) := by
  have keeps := stages.keeps_loaded grounded
  have same : loaded.kind? place = disk.kind? place := by
    refine Storage.kind?_of_appendRejects grounded stages.save fun present here => ?_
    exact notRejects present ((stages.keeps_prepared grounded).filePlace? here.symm).symm
  rw [← same]
  rw [stages.prepared_eq] at apart notProgram
  exact Storage.file_of_writePrograms (keeps.grounded grounded) apart.clear apart.nodup
    stages.write notProgram content

theorem read_input {bytes : ByteArray} (read : disk.read settings.input = .ok bytes) :
    after.read settings.input = .ok bytes := by
  obtain ⟨place, found, file⟩ := Disk.read_eq_ok_iff.mp read
  have here := (stages.keeps_prepared grounded).filePlace? found
  refine Disk.read_eq_ok_iff.mpr
    ⟨place, (stages.keeps grounded apart).filePlace? found, ?_⟩
  refine (stages.file grounded apart ?_ (fun _ => ?_) bytes).mpr file
  · rw [← here]
    exact apart.input_not_mem
  · rw [← here]
    exact apart.input_ne_rejects

theorem read_rejects (present : sheet.rejects ≠ []) :
    ∃ old, (disk.read settings.rejects = .ok old ∨
        disk.read settings.rejects = .error .notFound ∧ old = ByteArray.empty) ∧
      after.read settings.rejects =
        .ok (old ++ Text.encode (Text.ofEndedLines (sheet.rejects.map Reject.text))) := by
  have keeps := stages.keeps_loaded grounded
  obtain ⟨place, old, found, before, sets⟩ :=
    Storage.sets_of_appendRejects grounded stages.save present
  have here := (stages.keeps_prepared grounded).filePlace? found
  have notProgram := apart.rejects_not_mem
  rw [here, stages.prepared_eq] at notProgram
  have there := (stages.keeps grounded apart).filePlace? found
  rw [stages.prepared_eq] at apart
  refine ⟨old, before.imp ?_ ?_, Disk.read_eq_ok_iff.mpr ⟨place, there, ?_⟩⟩
  · exact fun file => Disk.read_eq_ok_iff.mpr ⟨place, found, file⟩
  · exact And.imp_left fun absent => Disk.read_of_kind?_none found absent
  · exact (Storage.file_of_writePrograms (keeps.grounded grounded) apart.clear apart.nodup
      stages.write notProgram _).mpr sets.kind?_self

/-- The files of the programs, split into lines, have the pairs of all equations, one program
after the other. -/
theorem splitOn_programs :
    conversion.written.map (fun path => (after.readText path).map (·.splitOn '\n')) =
      (Chunk.groups (Chunk.placedPairs sheet.equations (.blank sheet.equations.length))).map
        fun program =>
          .ok (program.flatMap InstructionPair.lines ++ trailer.map Instruction.line) := by
  have keeps := stages.keeps_loaded grounded
  rw [stages.prepared_eq] at apart
  rw [← Chunk.map_pairs_ofEquations, Storage.paths_of_writePrograms stages.write, List.map_map,
    List.map_map]
  refine List.map_congr_left fun chunk member => ?_
  obtain ⟨index, found⟩ := List.mem_iff_getElem?.mp member
  have free := Chunk.lineFeed_not_mem_lines (Equation.unbroken_of_load stages.load)
    (Assignment.unbroken_blank _) found
  have written := Storage.readText_of_writePrograms (keeps.grounded grounded) apart.clear
    apart.nodup stages.write member
  simp only [Function.comp_apply, written, Except.map, Chunk.splitOn_text free, Chunk.lines_eq]

theorem readText_input (read : disk.readText settings.input = .ok content) :
    after.readText settings.input = .ok content := by
  unfold Disk.readText at read
  cases bytes : disk.read settings.input with
  | error error => simp [bytes] at read
  | ok found =>
      rw [Disk.readText, stages.read_input grounded apart bytes]
      simpa only [bytes] using read

theorem check_after (read : disk.readText settings.input = .ok content) :
    check after settings = .ok sheet := by
  rw [check, Storage.load_of_readText (stages.readText_input grounded apart read),
    ← stages.sheet_eq read, Except.mapError]

end Stages

/-- Every line of the input that is not blank becomes either the two lines of its equation in one
program or one line at the end of the rejects, both in the order of the input; no other file changes,
and what is said of a conversion and of a check are the numbers of these lines. -/
theorem convert_conserves_lines (grounded : disk.Grounded)
    (read : disk.readText settings.input = .ok content)
    (converted : convert disk settings = (after, .ok conversion))
    (apart : Apart (prepared disk settings) settings conversion.written) :
    let kept := Sheet.kept (Storage.linesOf settings.plain content)
    let accepted := Sheet.accepted kept
    let rejected := Sheet.rejected kept
    let appended := Text.ofEndedLines rejected
    let place? := (prepared disk settings).filePlace?
    accepted.length + rejected.length = kept.length ∧
    conversion.written = (List.range' 1 (accepted.length ⌈/⌉ 10)).map settings.layout.pathFor ∧
    (∃ programs : List (List Equation), programs.flatten = accepted ∧
      (∀ program ∈ programs.dropLast, program.length = 10) ∧
      (∀ program ∈ programs, 1 ≤ program.length ∧ program.length ≤ 10) ∧
      conversion.written.map (fun path => (after.readText path).map (·.splitOn '\n')) =
        programs.map fun program => .ok <|
          (program.mapIdx fun slot equation =>
            ["\"piecewise(".toList ++ equation.normalize.expression ++ [','] ++
                equation.normalize.constraint ++ ")\"->Y".toList ++ Text.ofNat slot,
              "GraphColor(Y".toList ++ Text.ofNat slot ++ ",BLACK)".toList]).flatten ++
          ["DispGraph".toList, "RecallPic 0".toList, "StorePic 0".toList, "ClrDraw".toList,
            "DelVar Y0".toList, "DelVar Y1".toList, "DelVar Y2".toList, "DelVar Y3".toList,
            "DelVar Y4".toList, "DelVar Y5".toList, "DelVar Y6".toList, "DelVar Y7".toList,
            "DelVar Y8".toList, "DelVar Y9".toList]) ∧
    appended.splitOn '\n' = rejected ++ [[]] ∧
    (rejected ≠ [] → ∃ old, (disk.read settings.rejects = .ok old ∨
        disk.read settings.rejects = .error .notFound ∧ old = ByteArray.empty) ∧
      after.read settings.rejects = .ok (old ++ Text.encode appended)) ∧
    (∀ place bytes, some place ∉ conversion.written.map place? →
      (rejected ≠ [] → some place ≠ place? settings.rejects) →
      (after.kind? place = some (.file bytes) ↔ disk.kind? place = some (.file bytes))) ∧
    conversion.summary = "Created ".toList ++ Text.ofNat (accepted.length ⌈/⌉ 10) ++
      " program files from ".toList ++ Text.ofNat accepted.length ++ " equations.".toList ++
      (if 0 < rejected.length then [' '] ++ Text.ofNat rejected.length ++
        " rejected lines appended to ".toList ++ settings.rejects.text ++ ['.'] else []) ∧
    ∃ sheet above, check disk settings = .ok sheet ∧ check after settings = .ok sheet ∧
      sheet.equations.length = accepted.length ∧ sheet.rejects.length = rejected.length ∧
      sheet.report = Text.ofEndedLines (above ++ [Text.ofNat accepted.length ++
        " equations, ".toList ++ Text.ofNat rejected.length ++ " rejected".toList]) := by
  intro kept accepted rejected appended place?
  obtain ⟨loaded, sheet, stages⟩ := exists_stages converted
  have equations : sheet.equations = accepted := stages.equations_eq read
  have texts : sheet.rejects.map Reject.text = rejected := stages.map_text_rejects read
  have count : sheet.rejects.length = rejected.length := by rw [← texts, List.length_map]
  have present : sheet.rejects ≠ [] ↔ rejected ≠ [] := by
    rw [← texts, ne_eq, ne_eq, List.map_eq_nil_iff]
  have named := stages.written_eq
  obtain ⟨above, report⟩ := sheet.exists_report
  rw [equations] at named report
  rw [count] at report
  refine ⟨Sheet.length_accepted_add kept, named,
    ⟨Chunk.groups accepted, Chunk.flatten_groups accepted,
      fun program => Chunk.length_of_mem_dropLast_groups,
      fun program => Chunk.length_of_mem_groups, ?programs⟩, ?entries, ?saved, ?frame,
    ?summary, sheet, above, stages.check_before, stages.check_after grounded apart read,
    congrArg List.length equations, count, report⟩
  case programs =>
    rw [stages.splitOn_programs grounded apart, equations, Chunk.groups_placedPairs_blank,
      List.map_map]
    refine List.map_congr_left fun program member => ?_
    have fits := (Chunk.length_of_mem_groups member).2
    rw [Function.comp_apply, InstructionPair.flatMap_lines_mapIdx fits]
    simp only [List.append_assoc]
    rfl
  case entries =>
    refine Text.splitOn_ofEndedLines fun line member => ?_
    exact Equation.lineFeed_not_mem_of_readLines
      (Storage.readLines_of_readText read settings.plain)
      (Sheet.kept_subset _ (Sheet.rejected_subset _ member))
  case saved =>
    intro some_reject
    have saved := stages.read_rejects grounded apart (present.mpr some_reject)
    rw [texts] at saved
    exact saved
  case frame =>
    intro place bytes notProgram notRejects
    exact stages.file grounded apart notProgram (fun here => notRejects (present.mp here)) bytes
  case summary =>
    have summary := stages.summary_eq
    rw [equations, count] at summary
    exact summary

/-- One equation and one reject, after a reject that is older. -/
theorem convert_conserves_lines_mixed :
    let disk : Disk := { root := .folder [
      ("in".toList, .file (Text.encode "y = x\n\nno\n".toList)),
      ("bad".toList, .file (Text.encode "old\n".toList))] }
    let settings : Settings :=
      { input := .ofString "in", rejects := .ofString "bad", plain := false, layout := {},
        policy := .any, look := {} }
    disk.Grounded ∧ disk.readText settings.input = .ok "y = x\n\nno\n".toList ∧
    ∃ after conversion, convert disk settings = (after, .ok conversion) ∧
      Apart (prepared disk settings) settings conversion.written ∧
      after.readText (.ofString "./program1.txt") = .ok ("\"piecewise(X,)\"->Y0\n".toList ++
        "GraphColor(Y0,BLACK)\nDispGraph\nRecallPic 0\nStorePic 0\nClrDraw\n".toList ++
        "DelVar Y0\nDelVar Y1\nDelVar Y2\nDelVar Y3\nDelVar Y4\n".toList ++
        "DelVar Y5\nDelVar Y6\nDelVar Y7\nDelVar Y8\nDelVar Y9".toList) ∧
      after.read settings.rejects = .ok (Text.encode "old\n".toList ++ Text.encode "no\n".toList) ∧
      conversion.summary = "Created 1 program files from 1 equations. ".toList ++
        "1 rejected lines appended to bad.".toList := by
  intro disk settings
  have grounded : disk.Grounded := rfl
  have read : disk.readText settings.input = .ok "y = x\n\nno\n".toList :=
    Disk.readText_of_read rfl
  have load : Storage.load disk settings.input settings.plain =
      .ok ⟨[⟨['x'], []⟩], [⟨3, "no".toList, .noMatch⟩]⟩ := by
    rw [Storage.load_of_readText read]
    rfl
  have programs : (Session.ofEquations [⟨['x'], []⟩]).programs =
      [Chunk.assemble 1 [(⟨['x'], []⟩, .fallback)]] := Chunk.ofEquations_eq_map _ _
  obtain ⟨loaded, save⟩ : ∃ loaded, Storage.appendRejects disk settings.rejects
      [⟨3, "no".toList, .noMatch⟩] = (loaded, .ok ()) := ⟨_, rfl⟩
  obtain ⟨after, converted⟩ : ∃ after, convert disk settings =
      (after, .ok ⟨[.ofString "./program1.txt"], 1, 1, settings.rejects⟩) := by
    simp only [convert, loadSheet, load, save, programs]
    cases save
    exact ⟨_, rfl⟩
  have apart : Apart (prepared disk settings) settings [.ofString "./program1.txt"] := by
    simp only [prepared, loadSheet, load, save]
    cases save
    exact ⟨by decide, by decide⟩
  obtain ⟨_, _, ⟨groups, whole, _, _, files⟩, _, rejects, _, summary, _⟩ :=
    convert_conserves_lines grounded read converted apart
  obtain ⟨program, rfl⟩ : ∃ program, groups = [program] :=
    List.length_eq_one_iff.mp (by simpa using (congrArg List.length files).symm)
  have alone : program = [⟨['x'], []⟩] := by
    rw [List.flatten_singleton] at whole
    rw [whole]
    rfl
  have old : disk.read settings.rejects = .ok (Text.encode "old\n".toList) := rfl
  obtain ⟨before, was, now⟩ := rejects (by decide)
  have same : before = Text.encode "old\n".toList := by
    rw [old] at was
    simpa [eq_comm] using was
  rw [same] at now
  have file := Disk.readText_of_splitOn (List.cons.inj files).1
  rw [alone] at file
  refine ⟨grounded, read, after, _, converted, apart, ?_, now, summary.trans (by decide)⟩
  exact file.trans (congrArg Except.ok (by decide +kernel))

end Command

end GraphPrograms
