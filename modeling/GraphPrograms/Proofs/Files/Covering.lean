import GraphPrograms.Proofs.Files.Failing

/-!
What a replacement may change, whether it succeeds or not.

It is at the target, or at the backup name if a folder stands at the target.  A path that leads
through that folder is a case of its own: once the folder is away, the path and the temporary file
beside it cannot be reached through the path any more.
-/

namespace GraphPrograms.Disk

variable {disk before staged after : Disk} {path : Path} {place outer : Place} {name fresh : Text}
  {content : ByteArray}

/-- A path that leads nowhere without the folder that stands at it. -/
def Astray (disk : Disk) (path : Path) : Prop :=
  ∃ target, disk.locate path = .ok target ∧ disk.kind? target.destination = some .folder ∧
    ∀ inner, (disk.erase target.destination).stagingFolder path ≠ .ok inner

/-- The places that may change when the file at a path is replaced. -/
inductive Covers (disk : Disk) (path : Path) (place : Place) : Prop where
  | target {target : Target} (located : disk.locate path = .ok target)
      (under : target.destination <+: place)
  | backup {target : Target} (folder : disk.isFolder path = true)
      (located : disk.locate (backupOf path) = .ok target) (under : target.destination <+: place)
  | astray (astray : disk.Astray path) (absent : disk.kind? place = none)

theorem Staged.covers_of_moveAside_error {error : FileError} {asFolder : Bool}
    (stagedFrom : before.Staged staged path outer fresh content)
    (located : before.locate path = .ok (.member outer name asFolder))
    (folder : before.kind? (outer ++ [name]) = some .folder)
    (failed : staged.moveAside (outer ++ [fresh]) path = (after, .error error))
    (changed : after.kind? place ≠ before.kind? place) : before.Covers path place := by
  have final := Path.final_of_locate located
  have isFolder : before.isFolder path = true := isFolder_iff.mpr ⟨_, located, folder⟩
  have backup := final.locate_backupOf_of_walked stagedFrom.walked
  by_cases atTarget : outer ++ [name] <+: place
  · exact .target located atTarget
  by_cases atBackup : outer ++ [Path.backupName name] <+: place
  · exact .backup isFolder backup atBackup
  by_cases same : Path.backupName name = name
  · exact absurd (stagedFrom.restores_of_same final folder failed same place) changed
  by_cases vacant : before.Vacant (outer ++ [Path.backupName name])
  case neg =>
    exact absurd (stagedFrom.restores_of_not_vacant final folder failed same vacant place) changed
  case pos =>
    by_cases through : ∀ inner, (before.erase (outer ++ [name])).stagingFolder path ≠ .ok inner
    · -- Beside the two names only the temporary file has changed the disk.
      refine .astray ⟨_, located, folder, through⟩ (by_contra fun there => changed ?_)
      have renames := stagedFrom.renames_of_astray final folder failed same vacant through
      rw [renames.kind?_of_outside atBackup atTarget,
        kind?_cleared_of_outside (stagedFrom.filePlace?_backupOf final) atBackup,
        stagedFrom.kind?_of_there there]
    · obtain ⟨inner, leads⟩ : ∃ inner,
          (before.erase (outer ++ [name])).stagingFolder path = .ok inner := by
        simpa using through
      obtain ⟨_, whole⟩ := stagedFrom.kind?_of_leads final folder failed same vacant leads
      rw [whole, if_neg atBackup] at changed
      exact absurd rfl changed

theorem covers_of_replace_error {error : WriteError}
    (failed : before.replace path content = (after, .error error))
    (changed : after.kind? place ≠ before.kind? place) : before.Covers path place := by
  rcases exists_of_replace_error failed with ⟨_, rfl⟩ | ⟨staged, temporary, made, outcome⟩
  · exact absurd rfl changed
  · obtain ⟨outer, fresh, rfl, stagedFrom⟩ := exists_staged made
    rcases outcome with ⟨_, rfl⟩ | ⟨blocked, there, cause, failed⟩
    · exact absurd (stagedFrom.kind?_erase place) changed
    · rcases stagedFrom.blocked_cases there blocked with
        ⟨dotted, located⟩ | ⟨name, asFolder, located, folder⟩
      · -- The file under the backup name is all that can be gone.
        by_cases atBackup : before.filePlace? (backupOf path) = some place
        · obtain ⟨outer, name, _, rfl, folder⟩ := exists_of_dotted_backup located atBackup
          obtain ⟨holder, backup, backupLocated, rfl⟩ := filePlace?_eq_some_iff.mp atBackup
          exact .backup (isFolder_iff.mpr ⟨_, located, folder⟩) backupLocated
            (List.prefix_refl _)
        · exact absurd (stagedFrom.kind?_of_folder located failed fun _ _ => atBackup) changed
      · exact stagedFrom.covers_of_moveAside_error located folder failed changed

end GraphPrograms.Disk
