import GraphPrograms.Proofs.Files.Making
import GraphPrograms.Proofs.Files.Straying
import GraphPrograms.Proofs.Storage.Generations

/-!
Programs that are written up to a failure.

The programs before the failure are written as a whole, and the others are not touched: like a
replacement that succeeds, one that fails does not reach the place of another program
(`kind?_of_replace_pathFor_error`).  What can come in their places are folders through which the
path of the programs' folder leads, since those are made with it (`Stops`).
-/

namespace GraphPrograms

namespace OutputLayout

variable {layout : OutputLayout} {disk : Disk} {number : Nat}

/-- A program that is not replaced goes astray only if the path of the folder leads through it. -/
theorem spot_mem_way_of_astray (flat : layout.Flat) (astray : disk.Astray (layout.pathFor number)) :
    layout.spot disk number ∈ layout.way disk := by
  have proper := isName_fileName flat number
  have passed := (named_pathFor flat number).mem_through_of_astray astray
  rw [lead_pathFor flat, pathFor, Path.names_join proper, List.dropLast_concat,
    Disk.start_eq (Path.isAbsolute_join proper)] at passed
  exact passed

end OutputLayout

namespace Storage

open Disk

variable {layout : OutputLayout} {disk before after : Disk} {content : ByteArray} {number : Nat}
  {chunks : List Chunk} {items : List (Path × Text)} {paths : List Path}

theorem kind?_of_replace_pathFor_error (flat : layout.Flat) {error : WriteError}
    (failed : before.replace (layout.pathFor number) content = (after, .error error)) :
    (∀ place, after.kind? place = before.kind? place) ∨
      layout.spot before number ∈ layout.way before ∧
        ∀ other ≠ number, ∀ place, layout.spot before other <+: place →
          after.kind? place = before.kind? place ∨ before.kind? place = none := by
  have named := OutputLayout.named_pathFor flat number
  rcases named.restores_or_astray failed with restored | astray
  · exact .inl restored
  · refine .inr ⟨OutputLayout.spot_mem_way_of_astray flat astray,
      fun other different place under => or_iff_not_imp_left.mpr fun changed => ?_⟩
    cases covers_of_replace_error failed changed with
    | target located atTarget =>
        rw [OutputLayout.destination_pathFor flat located] at atTarget
        exact absurd atTarget (not_prefix_of_sibling
          (fun same => different (layout.fileName_injective same).symm) under)
    | backup _ located atBackup =>
        rw [named.locate_backupOf] at located
        cases walked : before.stagingFolder (layout.pathFor number) with
        | error error => simp [walked, Except.map] at located
        | ok outer =>
            simp only [walked, Except.map, Except.ok.injEq] at located
            obtain rfl := OutputLayout.lead_eq_of_walked flat walked
            obtain rfl := located
            exact absurd atBackup (not_prefix_of_sibling
              (fun same => different (OutputLayout.eq_of_backupName_fileName same)) under)
    | astray _ absent => exact absent

theorem exists_of_replaceEach_error {error : StorageError}
    (failed : replaceEach disk items = (after, .error error)) :
    ∃ done item rest before paths cause, items = done ++ item :: rest ∧
      replaceEach disk done = (before, .ok paths) ∧
      before.replace item.1 (Text.encode item.2) = (after, .error cause) ∧
      error = .write item.1 cause := by
  induction items generalizing disk with
  | nil => cases failed
  | cons item rest ih =>
      unfold replaceEach at failed
      cases first : disk.replace item.1 (Text.encode item.2) with
      | mk next outcome =>
          cases outcome with
          | error cause =>
              simp only [first] at failed
              cases failed
              exact ⟨[], item, rest, disk, [], cause, rfl, rfl, first, rfl⟩
          | ok _ =>
              simp only [first] at failed
              cases others : replaceEach next rest with
              | mk last result =>
                  cases result with
                  | ok later => simp [others, Except.map] at failed
                  | error reason =>
                      simp only [others, Except.map, Prod.mk.injEq, Except.error.injEq] at failed
                      obtain ⟨rfl, rfl⟩ := failed
                      obtain ⟨done, failing, left, before, paths, cause, rfl, written, stopped,
                        same⟩ := ih others
                      refine ⟨item :: done, failing, left, before, item.1 :: paths, cause, rfl, ?_,
                        stopped, same⟩
                      simp only [replaceEach, first, written, Except.map]

/-- What is there when programs are written up to one that fails. -/
structure Stops (layout : OutputLayout) (disk after : Disk) (done : List Chunk) (failing : Chunk)
    (rest : List Chunk) : Prop where
  written : ∀ chunk ∈ done,
    after.kind? (layout.spot disk chunk.number) = some (.file (Text.encode chunk.text))
  read : layout.spot disk failing.number ∉ layout.way disk → ∀ chunk ∈ done,
    after.read (layout.pathFor chunk.number) = .ok (Text.encode chunk.text)
  /-- Folders are made where the path leads through; and if it leads through the program that
  fails, that one may be gone and something be left where nothing was. -/
  kept : ∀ chunk ∈ failing :: rest, ∀ place, layout.spot disk chunk.number <+: place →
    after.kind? place = disk.kind? place ∨
      (place ∈ layout.way disk ∧ disk.kind? place = none ∧ after.kind? place = some .folder) ∨
      layout.spot disk failing.number ∈ layout.way disk ∧
        (chunk = failing ∨ disk.kind? place = none)

theorem stops_of_replace_error {done rest : List Chunk} {failing : Chunk} {cause : WriteError}
    (flat : layout.Flat) (distinct : ((done ++ failing :: rest).map Chunk.number).Nodup)
    (written : replaceEach disk
      (done.map fun chunk => (layout.pathFor chunk.number, chunk.text)) = (before, .ok paths))
    (failed : before.replace (layout.pathFor failing.number) (Text.encode failing.text) =
      (after, .error cause)) : Stops layout disk after done failing rest := by
  rw [List.map_append, List.nodup_append'] at distinct
  obtain ⟨doneDistinct, leftDistinct, apart⟩ := distinct
  obtain ⟨current, here, elsewhere⟩ := kind?_of_replaceEach flat doneDistinct written
  have outcome := kind?_of_replace_pathFor_error flat failed
  rw [OutputLayout.spot_of_current current, OutputLayout.way_of_current current] at outcome
  refine ⟨fun chunk member => ?written, fun outside chunk member => ?read,
    fun chunk member place under => ?kept⟩
  case written =>
    have other : chunk.number ≠ failing.number := fun same =>
      apart (List.mem_map_of_mem member) (by simp [same])
    rcases outcome with restored | ⟨_, kept⟩
    · rw [restored, here chunk member]
    · rcases kept chunk.number other _ (List.prefix_refl _) with same | absent
      · rw [same, here chunk member]
      · rw [here chunk member] at absent
        contradiction
  case read =>
    rcases outcome with restored | ⟨inside, _⟩
    · have grows : before.Grows after :=
        { current := current_of_replace_error failed
          folder := fun place folder => (restored place).trans folder
          file := fun place _ => by rw [restored place] }
      exact grows.read ((read_pathFor_of_replaceEach flat doneDistinct written).1 chunk member)
    · exact absurd inside outside
  case kept =>
    have untouched := elsewhere chunk.number
      (fun inside => apart inside (List.mem_map_of_mem member)) place under
    rcases outcome with restored | ⟨inside, kept⟩
    · exact .inl ((restored place).trans untouched)
    · rcases List.mem_cons.mp member with rfl | later
      · exact .inr (.inr ⟨inside, .inl rfl⟩)
      · have other : chunk.number ≠ failing.number := fun same =>
          (List.nodup_cons.mp leftDistinct).1 (same ▸ List.mem_map_of_mem later)
        rcases kept chunk.number other place under with same | absent
        · exact .inl (same.trans untouched)
        · exact .inr (.inr ⟨inside, .inr (untouched.symm.trans absent)⟩)

/-- The folder is made in a step of its own, which only adds folders. -/
theorem Stops.of_makeFolders {done rest : List Chunk} {failing : Chunk}
    (stops : Stops layout (disk.makeFolders layout.folder).1 after done failing rest) :
    Stops layout disk after done failing rest := by
  have grows := grows_makeFolders disk layout.folder
  obtain ⟨written, read, kept⟩ := stops
  rw [OutputLayout.spot_of_current grows.current] at written read kept
  rw [OutputLayout.way_of_current grows.current] at read kept
  refine ⟨written, read, fun chunk member place under => ?_⟩
  rcases kind?_makeFolders_cases disk layout.folder place with same | ⟨passed, absent, folder⟩
  · rw [← same]
    exact kept chunk member place under
  · rcases kept chunk member place under with stays | ⟨_, gone, _⟩ | ⟨inside, _⟩
    · exact .inr (.inl ⟨passed, absent, stays.trans folder⟩)
    · rw [folder] at gone
      contradiction
    · exact .inr (.inr ⟨inside, .inr absent⟩)

theorem error_of_writePrograms {error : StorageError}
    (failed : writePrograms disk layout chunks = (after, .error error)) :
    (∃ cause, disk.makeFolders layout.folder = (after, .error cause) ∧
        error = .makeFolder layout.folder cause) ∨
      replaceEach (disk.makeFolders layout.folder).1
        (chunks.map fun chunk => (layout.pathFor chunk.number, chunk.text)) =
          (after, .error error) := by
  unfold writePrograms at failed
  split at failed
  · cases failed
  · cases result : disk.makeFolders layout.folder with
    | mk made outcome =>
        rw [result] at failed
        cases outcome with
        | error cause =>
            cases failed
            exact .inl ⟨cause, rfl, rfl⟩
        | ok _ => exact .inr failed

/-- Programs that are not all written are written up to the first that fails; the error names that
one, or the folder that cannot be made. -/
theorem programs_wholly_old_or_new (flatStem : '/' ∉ layout.stem)
    (flatExtension : '/' ∉ layout.extension) (distinct : (chunks.map Chunk.number).Nodup)
    {error : StorageError}
    (failed : writePrograms disk layout chunks = (after, .error error)) :
    match error with
    | .read _ _ => False
    | .makeFolder path _ => path = layout.folder ∧ ∀ chunk ∈ chunks,
        disk.entryAt? (layout.pathFor chunk.number) = none ∧
          after.entryAt? (layout.pathFor chunk.number) = none
    | .write path _ => ∃ done failing rest, chunks = done ++ failing :: rest ∧
        path = layout.pathFor failing.number ∧ Stops layout disk after done failing rest := by
  have flat : layout.Flat := ⟨flatStem, flatExtension⟩
  rcases error_of_writePrograms failed with ⟨cause, unmade, rfl⟩ | stopped
  · refine ⟨rfl, fun chunk _ => ?_⟩
    exact entryAt?_join_of_makeFolders_error (OutputLayout.isName_fileName flat chunk.number)
      (layout.fileName_ne_dots chunk.number).1 (layout.fileName_ne_dots chunk.number).2 unmade
  · obtain ⟨done, item, rest, before, paths, cause, split, written, unplaced, rfl⟩ :=
      exists_of_replaceEach_error stopped
    obtain ⟨first, later, rfl, rfl, left⟩ := List.map_eq_append_iff.mp split
    obtain ⟨failing, tail, rfl, rfl, _⟩ := List.map_eq_cons_iff.mp left
    exact ⟨first, failing, tail, rfl, rfl,
      (stops_of_replace_error flat distinct written unplaced).of_makeFolders⟩

/-- A folder that can go aside is in the way of the first program, and one that cannot in the way of
the second. -/
theorem programs_wholly_old_or_new_blocked :
    let full : Tree := .folder [("note".toList, .file ByteArray.empty)]
    let disk : Disk := { root := .folder [
      ("program1.txt".toList, full), ("program2.txt".toList, full), ("program2.bak".toList, full),
      ("program3.txt".toList, .file ByteArray.empty)] }
    let result := writePrograms disk {} [⟨1, []⟩, ⟨2, []⟩, ⟨3, []⟩]
    ([⟨1, []⟩, ⟨2, []⟩, ⟨3, []⟩].map Chunk.number).Nodup ∧
      result.2 = .error (.write (.ofString "./program2.txt") (.file .notEmpty)) ∧
      result.1.read (.ofString "./program1.txt") = .ok (Text.encode (Chunk.mk 1 []).text) ∧
      result.1.kind? ["program2.txt".toList, "note".toList] = some (.file ByteArray.empty) ∧
      result.1.kind? ["program3.txt".toList] = some (.file ByteArray.empty) := by
  intro full disk result
  have distinct : ([⟨1, []⟩, ⟨2, []⟩, ⟨3, []⟩].map Chunk.number).Nodup := by decide
  have ended : result.2 =
      .error (.write (.ofString "./program2.txt") (.file .notEmpty)) := by decide +kernel
  refine ⟨distinct, ended, ?_⟩
  obtain ⟨done, failing, rest, split, path, stops⟩ :=
    programs_wholly_old_or_new (by decide) (by decide) distinct (eq_of_outcome ended)
  clear ended
  have second : failing.number = 2 :=
    OutputLayout.pathFor_injective ⟨by decide, by decide⟩ (path.symm.trans (by decide))
  obtain ⟨rfl, rfl, rfl⟩ : done = [⟨1, []⟩] ∧ failing = ⟨2, []⟩ ∧ rest = [⟨3, []⟩] := by
    clear stops path
    rcases done with _ | ⟨first, _ | ⟨next, left⟩⟩
    · cases split
      contradiction
    · cases split
      exact ⟨rfl, rfl, rfl⟩
    · have third : failing ∈ [(⟨3, []⟩ : Chunk)] := by
        rw [(List.cons.inj (List.cons.inj split).2).2]
        exact List.mem_append_right _ List.mem_cons_self
      rw [List.mem_singleton.mp third] at second
      contradiction
  have outside : OutputLayout.spot {} disk 2 ∉ OutputLayout.way {} disk := by decide
  have kept : ∀ chunk ∈ [(⟨2, []⟩ : Chunk), ⟨3, []⟩], ∀ place,
      OutputLayout.spot {} disk chunk.number <+: place → place ∉ OutputLayout.way {} disk →
        result.1.kind? place = disk.kind? place := by
    intro chunk member place under aside
    rcases stops.kept chunk member place under with same | ⟨inside, _⟩ | ⟨inside, _⟩
    · exact same
    · exact absurd inside aside
    · exact absurd inside outside
  have written := stops.read outside ⟨1, []⟩ List.mem_cons_self
  have inner := kept ⟨2, []⟩ (by simp) ["program2.txt".toList, "note".toList]
    (by decide) (by decide)
  have third := kept ⟨3, []⟩ (by simp) ["program3.txt".toList] (by decide) (by decide)
  have named : OutputLayout.pathFor {} 1 = .ofString "./program1.txt" := by decide
  rw [← named, inner, third]
  exact ⟨written, rfl, rfl⟩

/-- A program's name on the way to the folder of the programs, which is made with it. -/
theorem writePrograms_makes_later_program :
    let full : Tree := .folder [("note".toList, .file ByteArray.empty)]
    let disk : Disk := { root := .folder [
      ("program1.txt".toList, full), ("program1.bak".toList, full)] }
    let layout : OutputLayout := { folder := .ofString "program2.txt/.." }
    let result := writePrograms disk layout [⟨1, []⟩, ⟨2, []⟩]
    result.2 = .error (.write (.ofString "program2.txt/../program1.txt") (.file .notEmpty)) ∧
      disk.isThere (layout.pathFor 2) = false ∧ result.1.isFolder (layout.pathFor 2) = true := by
  decide +kernel

end Storage

end GraphPrograms
