import GraphPrograms.Proofs.Program.Chunking
import GraphPrograms.Proofs.Storage.Saving
import GraphPrograms.Review.Picture

/-!
The summary announces the files that will be written.

The summary counts the programs by dividing, while the paths are those of the programs that are
made.  As the programs are numbered from one without gaps, the paths are told by their number alone
(`paths_of_written`), so that the first path and the name in the last one are what the summary says.
-/

namespace GraphPrograms

theorem Session.view_current_of_isDone {session : Session} (done : session.isDone = true) :
    session.view.current = none := by
  rw [isDone, decide_eq_true_iff, total] at done
  rw [view, current?, List.getElem?_eq_none done, Option.map_none]

theorem Session.length_programs (session : Session) :
    session.programs.length = Chunk.countFor session.total :=
  Chunk.length_ofEquations _ _

namespace Review

variable {review : Review} {disk after : Disk} {paths : List Path}

theorem programCount_pos (present : 0 < review.session.total) : 0 < review.programCount :=
  Chunk.lt_countFor_iff.mpr (by simpa using present)

/-- The line of the summary that says what will be written. -/
def announcement (review : Review) : Line :=
  [⟨"Ctrl+L".toList, .strong review.palette.peach⟩,
   ⟨[' '] ++ review.glyphs.arrow ++ " write ".toList ++ review.targets,
    .ofInk review.palette.mutedText⟩]

theorem announcement_mem_summaryLines (present : 0 < review.session.total) :
    review.announcement ∈ review.summaryLines := by
  refine List.mem_append_right _ ?_
  rw [if_pos (programCount_pos present)]
  exact List.mem_cons_of_mem _ List.mem_cons_self

section Written

variable (written : Storage.writePrograms disk review.layout review.session.programs =
  (after, .ok paths))

include written

theorem paths_of_written :
    paths = (List.range' 1 review.programCount).map review.layout.pathFor := by
  have numbers := Chunk.map_number_ofEquations review.session.equations review.session.assignment
  rw [Storage.paths_of_writePrograms written, programCount, Session.total, ← numbers, List.map_map]
  rfl

theorem length_of_written : paths.length = review.programCount := by
  rw [paths_of_written written, List.length_map, List.length_range']

theorem head?_of_written (present : 0 < review.session.total) :
    paths.head? = some (review.layout.pathFor 1) := by
  have some := programCount_pos present
  rw [paths_of_written written, List.head?_map, List.head?_range', if_neg (by omega),
    Option.map_some]

theorem getLast?_of_written (present : 0 < review.session.total) :
    paths.getLast? = some (review.layout.pathFor review.programCount) := by
  have some := programCount_pos present
  rw [paths_of_written written, List.getLast?_map, List.getLast?_range', if_neg (by omega),
    Option.map_some]
  congr
  omega

theorem generate_of_written (present : 0 < review.session.total) :
    review.generate disk =
      (review.notify .success ("Created ".toList ++ Text.ofNat paths.length ++
        " program ".toList ++ plural paths.length "file" ++ " in ".toList ++
        review.layout.folder.text), after, paths) := by
  have some : review.session.programs ≠ [] := by
    rw [← List.length_pos_iff, Session.length_programs]
    exact programCount_pos present
  rw [generate]
  simp only [List.isEmpty_iff, some, if_false, written]

/-- What the summary of a finished review says of the programs is what becomes of them when they can
be written: it shows the first path and the name of the last one, or the only path, and the message
tells as many files as it counts. -/
theorem summary_announces_programs (done : review.isDone = true)
    (present : 0 < review.session.total) :
    review.session.view.current = none ∧
    review.announcement ∈ review.summaryLines ∧
    (review.generate disk).2 = (after, paths) ∧
    paths.length = review.programCount ∧
    review.programCount = review.session.total ⌈/⌉ 10 ∧
    (∃ first last name,
      paths.head? = some first ∧ first = review.layout.pathFor 1 ∧
      paths.getLast? = some last ∧ last = review.layout.folder.join name ∧
      name = review.layout.fileName review.programCount ∧
      review.targets =
        if paths.length = 1 then first.text else first.text ++ " .. ".toList ++ name) ∧
    (review.generate disk).1.status? = some ⟨.success, some ("Created ".toList ++
      Text.ofNat review.programCount ++ " program ".toList ++
      plural review.programCount "file" ++ " in ".toList ++ review.layout.folder.text)⟩ := by
  have generated := generate_of_written written present
  have counted := length_of_written written
  refine ⟨Session.view_current_of_isDone done, announcement_mem_summaryLines present,
    congrArg Prod.snd generated, counted, rfl, ?_, ?_⟩
  · refine ⟨_, _, review.layout.fileName review.programCount, head?_of_written written present,
      rfl, getLast?_of_written written present, rfl, rfl, ?_⟩
    rw [counted, targets]
  · rw [generated, ← counted]
    rfl

end Written

/-- Twenty equations fill two programs, and there is no third one. -/
theorem summary_announces_programs_twenty :
    let session : Session := ⟨List.replicate 20 ⟨['x'], []⟩, .blank 20, 20⟩
    let review : Review := { session := session, layout := { folder := ⟨"out".toList⟩ } }
    let disk : Disk := { root := .folder [] }
    (review.generate disk).2.2 = [.ofString "out/program1.txt", .ofString "out/program2.txt"] ∧
      review.programCount = 2 ∧ review.targets = "out/program1.txt .. program2.txt".toList ∧
      (review.generate disk).1.status? =
        some ⟨.success, some "Created 2 program files in out".toList⟩ := by
  intro session review disk
  have succeeds : (Storage.writePrograms disk review.layout review.session.programs).2.toOption =
      some [.ofString "out/program1.txt", .ofString "out/program2.txt"] := by decide +kernel
  obtain ⟨-, -, generated, counted, -, ⟨first, last, name, -, rfl, -, -, rfl, shown⟩, status⟩ :=
    summary_announces_programs (Disk.eq_of_toOption succeeds) (by decide) (by decide)
  exact ⟨congrArg Prod.snd generated, counted.symm, shown.trans (by decide),
    status.trans (by decide)⟩

end Review

end GraphPrograms
