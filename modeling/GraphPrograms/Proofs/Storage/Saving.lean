import GraphPrograms.Proofs.Files.Writing
import GraphPrograms.Storage.Basic

/-!
What saving rejects and programs leaves on a disk.

Files that are replaced one after the other change their places only (`writes_of_replaceEach`), so
each keeps its text if they are different files.  From that comes what the programs of a layout are
afterwards (`readText_of_writePrograms`), and that all other files stay (`file_of_writePrograms`).
-/

namespace GraphPrograms

/-- What a disk becomes when texts are written to different files, with no folder in the way. -/
structure Disk.Writes (before after : Disk) (items : List (Path × Text)) : Prop where
  keeps : before.Keeps after
  back : after.Keeps before
  written : ∀ item ∈ items, ∃ place, before.filePlace? item.1 = some place ∧
    after.kind? place = some (.file (Text.encode item.2))
  kind? : ∀ place, some place ∉ items.map (before.filePlace? ·.1) →
    after.kind? place = before.kind? place

namespace Storage

open Disk

variable {disk after : Disk} {items : List (Path × Text)} {paths : List Path}

theorem replaceEach_cons {item : Path × Text}
    (replaced : replaceEach disk (item :: items) = (after, .ok paths)) :
    ∃ next later, disk.replace item.1 (Text.encode item.2) = (next, .ok ()) ∧
      replaceEach next items = (after, .ok later) ∧ paths = item.1 :: later := by
  unfold replaceEach at replaced
  cases first : disk.replace item.1 (Text.encode item.2) with
  | mk next outcome =>
      cases outcome with
      | error error => simp [first] at replaced
      | ok _ =>
          simp only [first] at replaced
          cases rest : replaceEach next items with
          | mk last result =>
              cases result with
              | error error => simp [rest, Except.map] at replaced
              | ok later =>
                  simp only [rest, Except.map, Prod.mk.injEq, Except.ok.injEq] at replaced
                  obtain ⟨rfl, rfl⟩ := replaced
                  exact ⟨next, later, rfl, rest, rfl⟩

theorem paths_of_replaceEach (replaced : replaceEach disk items = (after, .ok paths)) :
    paths = items.map Prod.fst := by
  induction items generalizing disk paths with
  | nil =>
      cases replaced
      rfl
  | cons item rest ih =>
      obtain ⟨next, later, _, others, rfl⟩ := replaceEach_cons replaced
      rw [ih others, List.map_cons]

theorem writes_of_replaceEach (grounded : disk.Grounded)
    (clear : ∀ item ∈ items, disk.isFolder item.1 = false)
    (apart : (items.map (disk.filePlace? ·.1)).Nodup)
    (replaced : replaceEach disk items = (after, .ok paths)) : disk.Writes after items := by
  induction items generalizing disk paths with
  | nil =>
      cases replaced
      exact ⟨.refl _, .refl _, by simp, fun _ _ => rfl⟩
  | cons item rest ih =>
      obtain ⟨next, later, first, others, rfl⟩ := replaceEach_cons replaced
      obtain ⟨isClear, restClear⟩ := List.forall_mem_cons.mp clear
      obtain ⟨fresh, restApart⟩ := List.nodup_cons.mp apart
      obtain ⟨place, found, sets⟩ := sets_of_replace grounded isClear first
      have keeps : disk.Keeps next :=
        sets.keeps fun folder => absurd folder (kind?_of_filePlace? isClear found)
      have back : next.Keeps disk := sets.keeps_before
      -- The later paths lead on the next disk where they led before.
      have same : rest.map (next.filePlace? ·.1) = rest.map (disk.filePlace? ·.1) :=
        List.map_congr_left fun other _ => keeps.filePlace?_eq back other.1
      have nextClear : ∀ other ∈ rest, next.isFolder other.1 = false :=
        fun other member => back.isFolder_eq_false (restClear other member)
      have writes := ih (keeps.grounded grounded) nextClear (same ▸ restApart) others
      refine ⟨keeps.trans writes.keeps, writes.back.trans back, ?written, ?kept⟩
      case written =>
        intro other member
        rcases List.mem_cons.mp member with rfl | member
        · refine ⟨place, found, ?_⟩
          rw [writes.kind? place (by rw [same, ← found]; exact fresh), sets.kind?_self]
        · obtain ⟨itsPlace, its, content⟩ := writes.written other member
          exact ⟨itsPlace, back.filePlace? its, content⟩
      case kept =>
        intro other outside
        rw [List.map_cons, List.mem_cons, not_or] at outside
        rw [writes.kind? other (same ▸ outside.2), sets.kind?_of_ne]
        rintro rfl
        exact outside.1 found.symm

section Rejects

variable {path : Path} {rejects : List Reject}

theorem appendRejects_nil (saved : appendRejects disk path [] = (after, .ok ())) :
    after = disk := by
  cases saved
  rfl

theorem sets_of_appendRejects (grounded : disk.Grounded)
    (saved : appendRejects disk path rejects = (after, .ok ())) (present : rejects ≠ []) :
    ∃ place old, disk.filePlace? path = some place ∧
      (disk.kind? place = some (.file old) ∨ disk.kind? place = none ∧ old = ByteArray.empty) ∧
      disk.Sets after place
        (.file (old ++ Text.encode (Text.ofEndedLines (rejects.map Reject.text)))) := by
  unfold appendRejects at saved
  rw [if_neg (by simpa using present)] at saved
  split at saved
  · rename_i written appended
    cases saved
    exact sets_of_append grounded appended
  · simp at saved

theorem keeps_of_appendRejects (grounded : disk.Grounded)
    (saved : appendRejects disk path rejects = (after, .ok ())) : disk.Keeps after := by
  by_cases present : rejects = []
  · subst present
    rw [appendRejects_nil saved]
    exact .refl disk
  · obtain ⟨place, old, _, before, sets⟩ := sets_of_appendRejects grounded saved present
    refine sets.keeps fun folder => ?_
    rcases before with file | ⟨absent, _⟩
    · simp [file] at folder
    · simp [absent] at folder

theorem kind?_of_appendRejects {place : Place} (grounded : disk.Grounded)
    (saved : appendRejects disk path rejects = (after, .ok ()))
    (outside : rejects ≠ [] → some place ≠ disk.filePlace? path) :
    after.kind? place = disk.kind? place := by
  by_cases present : rejects = []
  · subst present
    rw [appendRejects_nil saved]
  · obtain ⟨itsPlace, old, found, _, sets⟩ := sets_of_appendRejects grounded saved present
    refine sets.kind?_of_ne ?_
    rintro rfl
    exact outside present found.symm

end Rejects

section Programs

variable {layout : OutputLayout} {chunks : List Chunk}

theorem replaceEach_of_writePrograms
    (written : writePrograms disk layout chunks = (after, .ok paths)) :
    chunks = [] ∧ after = disk ∧ paths = [] ∨
      replaceEach (disk.makeFolders layout.folder).1
        (chunks.map fun chunk => (layout.pathFor chunk.number, chunk.text)) =
          (after, .ok paths) := by
  unfold writePrograms at written
  split at written
  · rename_i empty
    cases written
    exact .inl ⟨by simpa using empty, rfl, rfl⟩
  · split at written
    · simp at written
    · rename_i made _ folders
      rw [folders]
      exact .inr written

theorem paths_of_writePrograms
    (written : writePrograms disk layout chunks = (after, .ok paths)) :
    paths = chunks.map fun chunk => layout.pathFor chunk.number := by
  rcases replaceEach_of_writePrograms written with ⟨rfl, _, rfl⟩ | replaced
  · rfl
  · rw [paths_of_replaceEach replaced, List.map_map]
    rfl

variable (grounded : disk.Grounded)
  (clear : ∀ path ∈ paths, (disk.makeFolders layout.folder).1.isFolder path = false)
  (apart : (paths.map (disk.makeFolders layout.folder).1.filePlace?).Nodup)
  (written : writePrograms disk layout chunks = (after, .ok paths))

include grounded clear apart written

theorem writes_of_writePrograms : chunks = [] ∧ after = disk ∨
    (disk.makeFolders layout.folder).1.Writes after
      (chunks.map fun chunk => (layout.pathFor chunk.number, chunk.text)) := by
  rcases replaceEach_of_writePrograms written with ⟨empty, same, _⟩ | replaced
  · exact .inl ⟨empty, same⟩
  · have named := paths_of_writePrograms written
    have grows := grows_makeFolders disk layout.folder
    refine .inr (writes_of_replaceEach (grows.grounded grounded) ?_ ?_ replaced)
    · intro item member
      obtain ⟨chunk, listed, rfl⟩ := List.mem_map.mp member
      exact clear _ (named ▸ List.mem_map_of_mem listed)
    · rw [named, List.map_map] at apart
      rw [List.map_map]
      exact apart

theorem keeps_of_writePrograms : disk.Keeps after := by
  rcases writes_of_writePrograms grounded clear apart written with ⟨_, rfl⟩ | writes
  · exact .refl after
  · exact (grows_makeFolders disk layout.folder).toKeeps.trans writes.keeps

theorem readText_of_writePrograms {chunk : Chunk} (member : chunk ∈ chunks) :
    after.readText (layout.pathFor chunk.number) = .ok chunk.text := by
  rcases writes_of_writePrograms grounded clear apart written with ⟨rfl, _⟩ | writes
  · contradiction
  · obtain ⟨place, found, file⟩ := writes.written _ (List.mem_map_of_mem member)
    exact readText_of_read (read_eq_ok_iff.mpr ⟨place, writes.keeps.filePlace? found, file⟩)

/-- All files but the programs stay. -/
theorem file_of_writePrograms {place : Place}
    (outside : some place ∉ paths.map (disk.makeFolders layout.folder).1.filePlace?)
    (content : ByteArray) :
    after.kind? place = some (.file content) ↔ disk.kind? place = some (.file content) := by
  rcases writes_of_writePrograms grounded clear apart written with ⟨_, rfl⟩ | writes
  · exact Iff.rfl
  · rw [paths_of_writePrograms written, List.map_map] at outside
    rw [writes.kind? place (by rw [List.map_map]; exact outside)]
    exact (grows_makeFolders disk layout.folder).file place content

end Programs

end Storage

end GraphPrograms
