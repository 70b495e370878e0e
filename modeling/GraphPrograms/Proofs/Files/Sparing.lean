import GraphPrograms.Proofs.Files.Failing

/-!
What a replacement destroys when a folder is in its way.

The folder goes to its backup name, with all that is in it.  A file that has that name is lost, and
so is an empty folder; a folder with something in it stops the replacement.  No other file is lost
(`replace_spares_files`).
-/

namespace GraphPrograms.Disk

variable {disk after : Disk} {path : Path} {content : ByteArray}

/-- A folder in the way of a file has gone to its backup name, where at most an empty folder or a
file was. -/
theorem setsAside_of_replace (folder : disk.isFolder path = true)
    (replaced : disk.replace path content = (after, .ok ())) :
    ∃ outer name, path.Named name ∧ disk.stagingFolder path = .ok outer ∧
      after.stagingFolder path = .ok outer ∧ disk.kind? (outer ++ [name]) = some .folder ∧
      Path.backupName name ≠ name ∧ disk.Vacant (outer ++ [Path.backupName name]) ∧
      disk.SetsAside after (outer ++ [name]) (outer ++ [Path.backupName name])
        (.file content) := by
  obtain ⟨name, named⟩ := named_of_replace replaced
  obtain ⟨outer, walked, afterWalked, outcome⟩ := named.sets_or_setsAside_of_replace replaced
  have located := named.locate_of_stagingFolder walked
  have there : disk.kind? (outer ++ [name]) = some .folder := by
    obtain ⟨target, again, there⟩ := isFolder_iff.mp folder
    cases located.symm.trans again
    exact there
  rcases outcome with ⟨notFolder, _⟩ | ⟨_, different, setsAside⟩
  · exact absurd there notFolder
  · refine ⟨outer, name, named, walked, afterWalked, there, different, ?_, setsAside⟩
    obtain ⟨staged, temporary, made, outcome⟩ := exists_of_replace replaced
    obtain ⟨holder, fresh, rfl, stagedFrom⟩ := exists_staged made
    cases walked.symm.trans stagedFrom.walked
    rcases outcome with placed | ⟨_, _, _, replaced⟩
    · obtain ⟨place, found, notFolder, _⟩ :=
        (moveFrom_eq_ok_iff (kind?_eq_file_iff.mp stagedFrom.held)).mp placed
      cases found.symm.trans (stagedFrom.keeps.filePlace? (named.filePlace?_of_walked walked))
      exact absurd (stagedFrom.keeps.folder _ there) notFolder
    · obtain ⟨aside, _, moved, _, _⟩ := exists_of_moveAside replaced
      exact stagedFrom.vacant_of_move named.final there different moved

/-- A replacement that succeeds where a folder stood loses at most the file that had the backup
name; what was in the folder is under that name. -/
theorem replace_spares_files (folder : disk.isFolder path = true)
    (replaced : disk.replace path content = (after, .ok ())) :
    ∃ place backup, disk.filePlace? path = some place ∧ after.filePlace? path = some place ∧
      disk.filePlace? (backupOf path) = some backup ∧
      after.filePlace? (backupOf path) = some backup ∧
      after.read path = .ok content ∧
      (∀ other bytes, ¬ place <+: other → disk.kind? other = some (.file bytes) →
        (after.kind? other = some (.file bytes) ↔ other ≠ backup)) ∧
      ∀ rest bytes, disk.kind? (place ++ rest) = some (.file bytes) →
        after.kind? (backup ++ rest) = some (.file bytes) := by
  obtain ⟨outer, name, named, walked, afterWalked, there, different, vacant, setsAside⟩ :=
    setsAside_of_replace folder replaced
  refine ⟨_, _, named.filePlace?_of_walked walked, named.filePlace?_of_walked afterWalked,
    named.filePlace?_backupOf_of_walked walked, named.filePlace?_backupOf_of_walked afterWalked,
    named.read_of_replace replaced, fun other bytes outside file => ?_, fun rest bytes file => ?_⟩
  · by_cases under : outer ++ [Path.backupName name] <+: other
    · obtain ⟨rest, rfl⟩ := under
      by_cases here : rest = []
      · -- What had the backup name is lost: the folder has it now.
        have moved := setsAside.kind?_moved different []
        simp only [List.append_nil] at moved
        simp [here, moved, there]
      · rw [vacant.below here] at file
        contradiction
    · rw [setsAside.kind?_of_outside outside under]
      refine iff_of_true file ?_
      rintro rfl
      exact under (List.prefix_refl _)
  · rw [setsAside.kind?_moved different, file]

theorem replace_spares_files_nested :
    let old := "old".toUTF8
    let deep := "deep".toUTF8
    let new := "new".toUTF8
    let disk : Disk := { root := .folder [
      ("d".toList, .folder [
        ("a".toList, .file old), ("s".toList, .folder [("b".toList, .file deep)])]),
      ("d.bak".toList, .file old), ("e".toList, .file old)] }
    let after := (disk.replace (.ofString "d") new).1
    disk.isFolder (.ofString "d") = true ∧
      disk.replace (.ofString "d") new = (after, .ok ()) ∧
      after.read (.ofString "d") = .ok new ∧ after.kind? ["e".toList] = some (.file old) ∧
      after.kind? ["d.bak".toList, "a".toList] = some (.file old) ∧
      after.kind? ["d.bak".toList, "s".toList, "b".toList] = some (.file deep) := by
  intro old deep new disk after
  have folder : disk.isFolder (.ofString "d") = true := rfl
  have replaced : disk.replace (.ofString "d") new = (after, .ok ()) := eq_of_toOption rfl
  obtain ⟨place, backup, found, _, backupFound, _, read, outside, inside⟩ :=
    replace_spares_files folder replaced
  obtain rfl : place = ["d".toList] := Option.some.inj (found.symm.trans rfl)
  obtain rfl : backup = ["d.bak".toList] := Option.some.inj (backupFound.symm.trans rfl)
  exact ⟨folder, replaced, read, (outside ["e".toList] old (by decide) rfl).mpr (by decide),
    inside ["a".toList] old rfl, inside ["s".toList, "b".toList] deep rfl⟩

/-- A file that has the backup name is lost. -/
theorem replace_takes_backup_name :
    let disk : Disk := { root := .folder [
      ("d".toList, .folder []), ("d.bak".toList, .file "keep".toUTF8)] }
    let result := disk.replace (.ofString "d") "new".toUTF8
    disk.isFolder (.ofString "d") = true ∧ result.2 = .ok () ∧
      ¬ ["d".toList] <+: ["d.bak".toList] ∧
      disk.kind? ["d.bak".toList] = some (.file "keep".toUTF8) ∧
      result.1.kind? ["d.bak".toList] = some .folder :=
  ⟨rfl, rfl, by decide, rfl, rfl⟩

end GraphPrograms.Disk
