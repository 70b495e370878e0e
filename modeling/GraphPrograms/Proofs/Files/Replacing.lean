import GraphPrograms.Proofs.Files.Moving
import GraphPrograms.Proofs.Files.Naming

/-!
What a replacement that succeeds has done, whatever stood at its path.

A file takes the place of a file or of nothing (`Sets`).  A folder goes out of its way to the
backup name, with all that is in it, and stays there (`SetsAside`).
-/

namespace GraphPrograms

namespace Disk

variable {disk before after staged : Disk} {path : Path} {place outer aside source : Place}
  {name new fresh : Text} {content : ByteArray} {members : List (Text × Tree)} {kind : Kind}

/-- A disk that another one becomes when what stands at one place goes to another one, and
something without members is put in its stead. -/
structure SetsAside (before after : Disk) (place aside : Place) (kind : Kind) : Prop where
  current : after.current = before.current
  kind? : ∀ other, after.kind? other =
    if other = place then some kind
    else if aside <+: other then before.kind? (place ++ other.drop aside.length)
    else if place <+: other then none
    else before.kind? other

theorem SetsAside.kind?_self (setsAside : before.SetsAside after place aside kind) :
    after.kind? place = some kind := by
  rw [setsAside.kind?, if_pos rfl]

theorem SetsAside.kind?_of_outside (setsAside : before.SetsAside after place aside kind)
    {other : Place} (notOld : ¬ place <+: other) (notNew : ¬ aside <+: other) :
    after.kind? other = before.kind? other := by
  rw [setsAside.kind?, if_neg, if_neg notNew, if_neg notOld]
  rintro rfl
  exact notOld (List.prefix_refl _)

theorem SetsAside.kind?_moved
    (setsAside : before.SetsAside after (outer ++ [name]) (outer ++ [new]) kind)
    (different : new ≠ name) (rest : Place) :
    after.kind? (outer ++ [new] ++ rest) = before.kind? (outer ++ [name] ++ rest) := by
  have elsewhere : outer ++ [new] ++ rest ≠ outer ++ [name] := by
    intro here
    have under : outer ++ [new] <+: outer ++ [name] := ⟨rest, here⟩
    exact not_prefix_of_concat_ne different under
  rw [setsAside.kind?, if_neg elsewhere, if_pos (List.prefix_append _ rest), List.drop_left]

theorem exists_of_moveAside (replaced : staged.moveAside place path = (after, .ok ())) :
    ∃ moved placed, (staged.cleared (backupOf path)).move path (backupOf path) = .ok moved ∧
      moved.moveFrom place path = .ok placed ∧ after = placed.cleared (backupOf path) := by
  unfold moveAside at replaced
  simp only at replaced
  split at replaced
  · simp at replaced
  · rename_i aside moved
    split at replaced
    · rename_i placed placing
      cases replaced
      exact ⟨aside, placed, moved, placing, rfl⟩
    · split at replaced <;> simp at replaced

theorem not_mem_freshName (members : List (Text × Tree)) : 'k' ∉ freshName members := by
  intro inside
  rcases List.mem_append.mp inside with start | zeros
  · exact absurd start (by decide)
  · exact absurd (List.eq_of_mem_replicate zeros) (by decide)

theorem sets_of_moveFrom (located : disk.locate path = .ok (.member outer name false))
    (held : disk.kind? (outer ++ [new]) = some (.file content))
    (moved : disk.moveFrom (outer ++ [new]) path = .ok after) :
    disk.kind? (outer ++ [name]) ≠ some .folder ∧
      (disk.erase (outer ++ [new])).Sets after (outer ++ [name]) (.file content) := by
  obtain ⟨place, found, notFolder, rfl⟩ :=
    (moveFrom_eq_ok_iff (kind?_eq_file_iff.mp held)).mp moved
  obtain ⟨_, _, again, rfl⟩ := filePlace?_eq_some_iff.mp found
  cases located.symm.trans again
  refine ⟨notFolder, putFile_sets content ?_ fun folder => ?_⟩
  · rw [kind?_erase, if_neg (not_prefix_outer outer new), kind?_holder held]
  · rw [kind?_erase] at folder
    split at folder
    · contradiction
    · exact notFolder folder

/-- Only a folder does not give way to a file. -/
theorem kind?_of_moveFrom_error {error : FileError}
    (located : disk.locate path = .ok (.member outer name false))
    (held : disk.kind? source = some (.file content))
    (failed : disk.moveFrom source path = .error error) :
    disk.kind? (outer ++ [name]) = some .folder := by
  by_contra notFolder
  have possible := (moveFrom_eq_ok_iff (kind?_eq_file_iff.mp held)).mpr
    ⟨_, filePlace?_eq_some_iff.mpr ⟨_, _, located, rfl⟩, notFolder, rfl⟩
  rw [failed] at possible
  contradiction

theorem keeps_of_moveFrom (located : disk.locate path = .ok (.member outer name false))
    (held : disk.kind? (outer ++ [new]) = some (.file content))
    (moved : disk.moveFrom (outer ++ [new]) path = .ok after) : disk.Keeps after := by
  obtain ⟨notFolder, sets⟩ := sets_of_moveFrom located held moved
  refine ⟨sets.current, fun other folder => ?_⟩
  have outside : ¬ outer ++ [new] <+: other := by
    rintro ⟨rest, rfl⟩
    cases rest with
    | nil => simp [held] at folder
    | cons first later =>
        have notFolder : disk.kind? (outer ++ [new]) ≠ some .folder := by simp [held]
        rw [kind?_below notFolder (List.cons_ne_nil first later)] at folder
        contradiction
  rw [sets.kind?_of_ne fun here => notFolder (here ▸ folder), kind?_erase, if_neg outside, folder]

/-- The steps in which a folder goes aside and a file comes in its stead, as a single one. -/
theorem setsAside_of_steps {moved : Disk} {backup : Path} (different : new ≠ name)
    (unlike : new ≠ fresh) (otherwise : name ≠ fresh)
    (found : before.filePlace? backup = some (outer ++ [new]))
    (renames : (before.cleared backup).Renames moved (outer ++ [name]) (outer ++ [new]))
    (sets : (moved.erase (outer ++ [fresh])).Sets after (outer ++ [name]) kind) :
    (before.erase (outer ++ [fresh])).SetsAside after (outer ++ [name]) (outer ++ [new]) kind where
  current := sets.current.trans (renames.current.trans (keeps_cleared before backup).current)
  kind? := by
    intro other
    rw [sets.kind?]
    refine if_congr Iff.rfl rfl ?_
    by_cases underNew : outer ++ [new] <+: other
    · obtain ⟨rest, rfl⟩ := underNew
      rw [if_pos (List.prefix_append _ rest), List.drop_left, kind?_erase, kind?_erase,
        if_neg (not_prefix_of_ne unlike.symm rest), if_neg (not_prefix_of_ne otherwise.symm rest),
        renames.kind?_new, kind?_cleared_of_outside found (not_prefix_of_ne different rest)]
    · rw [if_neg underNew, kind?_erase]
      by_cases underOld : outer ++ [name] <+: other
      · rw [if_pos underOld, renames.kind?, if_neg underNew, if_pos underOld, ite_self]
      · rw [if_neg underOld, kind?_erase, renames.kind?_of_outside underNew underOld,
          kind?_cleared_of_outside found underNew]

end Disk

namespace Path.Named

open Disk

variable {disk before after staged : Disk} {path : Path} {outer : Place} {name fresh : Text}
  {content : ByteArray} (named : path.Named name)

include named

theorem locate_of_stagingFolder (walked : disk.stagingFolder path = .ok outer) :
    disk.locate path = .ok (.member outer name false) := by
  rw [named.locate, walked, Except.map]

theorem locate_backupOf_of_stagingFolder (walked : disk.stagingFolder path = .ok outer) :
    disk.locate (backupOf path) = .ok (.member outer (backupName name) false) := by
  rw [named.locate_backupOf, walked, Except.map]

theorem filePlace?_of_walked (walked : disk.stagingFolder path = .ok outer) :
    disk.filePlace? path = some (outer ++ [name]) :=
  filePlace?_eq_some_iff.mpr ⟨_, _, named.locate_of_stagingFolder walked, rfl⟩

theorem filePlace?_backupOf_of_walked (walked : disk.stagingFolder path = .ok outer) :
    disk.filePlace? (backupOf path) = some (outer ++ [backupName name]) :=
  filePlace?_eq_some_iff.mpr ⟨_, _, named.locate_backupOf_of_stagingFolder walked, rfl⟩

theorem read_eq (walked : disk.stagingFolder path = .ok outer) : disk.read path =
    match disk.kind? (outer ++ [name]) with
    | none => .error .notFound
    | some .folder => .error .isAFolder
    | some (.file bytes) => .ok bytes := by
  have entry : disk.kind? (outer ++ [name]) = (disk.get? (outer ++ [name])).map Tree.kind := rfl
  simp only [Disk.read, named.locate_of_stagingFolder walked, bind, Except.bind, entry]
  cases disk.get? (outer ++ [name]) with
  | none => rfl
  | some entry => cases entry <;> rfl

/-- On every disk where it leads anywhere a path leads into the one folder. -/
theorem stagingFolder_of_locate {target : Target} (walked : before.stagingFolder path = .ok outer)
    (current : after.current = before.current) (located : after.locate path = .ok target) :
    after.stagingFolder path = .ok outer := by
  rw [named.locate] at located
  cases rewalked : after.stagingFolder path with
  | error error => simp [rewalked, Except.map] at located
  | ok again => rw [named.stagingFolder_unique before current walked rewalked]

theorem renames_of_move (walked : before.stagingFolder path = .ok outer)
    (folder : before.kind? (outer ++ [name]) = some .folder)
    (moved : before.move path (backupOf path) = .ok after) :
    backupName name = name ∧ after = before ∨ backupName name ≠ name ∧
      before.Renames after (outer ++ [name]) (outer ++ [backupName name]) := by
  obtain ⟨members, held⟩ := kind?_eq_folder_iff.mp folder
  rw [move_of_locate (named.locate_of_stagingFolder walked)] at moved
  rcases moveFrom_folder (named.locate_backupOf_of_stagingFolder walked) held moved with
    ⟨same, rfl⟩ | ⟨different, rfl⟩
  · exact .inl ⟨by simpa using same, rfl⟩
  · exact .inr ⟨fun same => different (by rw [same]), renames_of_put held _⟩

theorem sets_of_moveFrom_named (walked : before.stagingFolder path = .ok outer)
    (held : before.kind? (outer ++ [fresh]) = some (.file content))
    (moved : before.moveFrom (outer ++ [fresh]) path = .ok after) :
    after.stagingFolder path = .ok outer ∧ before.Keeps after ∧
      before.kind? (outer ++ [name]) ≠ some .folder ∧
      (before.erase (outer ++ [fresh])).Sets after (outer ++ [name]) (.file content) := by
  have located := named.locate_of_stagingFolder walked
  have keeps := keeps_of_moveFrom located held moved
  exact ⟨named.stagingFolder_of_locate walked keeps.current (keeps.locate located), keeps,
    sets_of_moveFrom located held moved⟩

/-- The folder at the path goes aside, and the new file comes in its stead. -/
theorem setsAside_of_moveAside (walked : staged.stagingFolder path = .ok outer)
    (folder : staged.kind? (outer ++ [name]) = some .folder)
    (held : staged.kind? (outer ++ [fresh]) = some (.file content))
    (unlike : backupName name ≠ fresh)
    (replaced : staged.moveAside (outer ++ [fresh]) path = (after, .ok ())) :
    after.stagingFolder path = .ok outer ∧ backupName name ≠ name ∧
      (staged.erase (outer ++ [fresh])).SetsAside after (outer ++ [name])
        (outer ++ [backupName name]) (.file content) := by
  obtain ⟨aside, placed, moved, placing, rfl⟩ := exists_of_moveAside replaced
  have found := named.filePlace?_backupOf_of_walked walked
  have keepsCleared := keeps_cleared staged (backupOf path)
  have clearedWalked := named.stagingFolder_of_locate walked keepsCleared.current
    (keepsCleared.locate (named.locate_of_stagingFolder walked))
  by_cases same : backupName name = name
  case pos =>
    -- A folder that has the backup name already does not go away.
    rw [same] at found
    rw [cleared_of_folder found folder] at moved
    rcases named.renames_of_move walked folder moved with ⟨_, rfl⟩ | ⟨different, _⟩
    · exact absurd folder (named.sets_of_moveFrom_named walked held placing).2.2.1
    · contradiction
  case neg =>
    have stays := keepsCleared.folder _ folder
    have otherwise : name ≠ fresh := by
      rintro rfl
      simp [held] at folder
    rcases named.renames_of_move clearedWalked stays moved with ⟨_, _⟩ | ⟨_, renames⟩
    · contradiction
    · obtain ⟨_, there⟩ := exists_locate_of_moveFrom placing
      have asideWalked := named.stagingFolder_of_locate clearedWalked renames.current there
      have asideHeld : aside.kind? (outer ++ [fresh]) = some (.file content) := by
        rw [renames.kind?_of_outside (not_prefix_of_concat_ne unlike)
          (not_prefix_of_concat_ne otherwise),
          kind?_cleared_of_outside found (not_prefix_of_concat_ne unlike), held]
      obtain ⟨placedWalked, keeps, _, sets⟩ :=
        named.sets_of_moveFrom_named asideWalked asideHeld placing
      -- What has gone aside is a folder, so it is not removed in the end.
      have kept : placed.kind? (outer ++ [backupName name]) = some .folder := by
        refine keeps.folder _ ?_
        have whole := renames.kind?_new []
        rwa [List.append_nil, List.append_nil, stays] at whole
      rw [cleared_of_folder (named.filePlace?_backupOf_of_walked placedWalked) kept]
      exact ⟨placedWalked, same, setsAside_of_steps same unlike otherwise found renames sets⟩

/-- What a replacement that succeeds has done. -/
theorem sets_or_setsAside_of_replace (replaced : before.replace path content = (after, .ok ())) :
    ∃ outer, before.stagingFolder path = .ok outer ∧ after.stagingFolder path = .ok outer ∧
      (before.kind? (outer ++ [name]) ≠ some .folder ∧
          before.Sets after (outer ++ [name]) (.file content) ∨
        before.kind? (outer ++ [name]) = some .folder ∧ backupName name ≠ name ∧
          before.SetsAside after (outer ++ [name]) (outer ++ [backupName name])
            (.file content)) := by
  obtain ⟨staged, temporary, made, outcome⟩ := exists_of_replace replaced
  obtain ⟨absent, sets, outer, members, walked, _, rfl⟩ := sets_of_stage made
  have keeps : before.Keeps staged := sets.keeps (by simp [absent])
  have stagedWalked := named.stagingFolder_of_locate walked keeps.current
    (keeps.locate (named.locate_of_stagingFolder walked))
  have held := sets.kind?_self
  -- Without the temporary file the disk is again what it was at first.
  have cleaned := sets.kind?_erase absent
  refine ⟨outer, walked, ?_⟩
  rcases outcome with moved | ⟨error, failed, _, replaced⟩
  · obtain ⟨afterWalked, _, notFolder, placed⟩ :=
      named.sets_of_moveFrom_named stagedWalked held moved
    exact ⟨afterWalked, .inl ⟨mt (keeps.folder _) notFolder, placed.current.trans sets.current,
      fun other => by rw [placed.kind?, cleaned]⟩⟩
  · have folder :=
      kind?_of_moveFrom_error (named.locate_of_stagingFolder stagedWalked) held failed
    have unlike : backupName name ≠ freshName members := fun same =>
      not_mem_freshName members (same ▸ mem_backupName name)
    obtain ⟨afterWalked, different, placed⟩ :=
      named.setsAside_of_moveAside stagedWalked folder held unlike replaced
    exact ⟨afterWalked, .inr ⟨sets.keeps_before.folder _ folder, different,
      placed.current.trans sets.current, fun other => by rw [placed.kind?, cleaned, cleaned]⟩⟩

theorem read_of_replace (replaced : before.replace path content = (after, .ok ())) :
    after.read path = .ok content := by
  obtain ⟨outer, _, walked, outcome⟩ := named.sets_or_setsAside_of_replace replaced
  have placed : after.kind? (outer ++ [name]) = some (.file content) := by
    rcases outcome with ⟨_, sets⟩ | ⟨_, _, setsAside⟩
    · exact sets.kind?_self
    · exact setsAside.kind?_self
  rw [named.read_eq walked, placed]

end Path.Named

end GraphPrograms
