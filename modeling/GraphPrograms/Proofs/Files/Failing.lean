import GraphPrograms.Proofs.Files.Endings
import GraphPrograms.Proofs.Files.Replacing

/-!
What a replacement that fails leaves behind.

A folder that is in the way goes aside before the new file is placed, and what has the backup name
goes before that.  A failure brings the folder back, if its path still leads anywhere, but nothing
that had the backup name.  `Strands` lists what is lost so; with it left out, a replacement does
all or nothing.
-/

namespace GraphPrograms

namespace Disk

variable {disk before staged aside after : Disk} {path : Path} {place outer source : Place}
  {name new fresh : Text} {content : ByteArray} {members : List (Text × Tree)}

theorem exists_of_moveAside_error {error : FileError}
    (failed : staged.moveAside place path = (after, .error error)) :
    ((∀ moved, (staged.cleared (backupOf path)).move path (backupOf path) ≠ .ok moved) ∧
        after = (staged.cleared (backupOf path)).erase place) ∨
      ∃ moved, (staged.cleared (backupOf path)).move path (backupOf path) = .ok moved ∧
        (∀ placed, moved.moveFrom place path ≠ .ok placed) ∧
        ((∃ next, moved.move (backupOf path) path = .ok next ∧ after = next.erase place) ∨
          (∀ next, moved.move (backupOf path) path ≠ .ok next) ∧ after = moved) := by
  unfold moveAside at failed
  simp only at failed
  split at failed
  · rename_i stopped
    cases failed
    exact .inl ⟨fun moved possible => (by cases stopped.symm.trans possible), rfl⟩
  · rename_i moved done
    refine .inr ⟨moved, done, ?_⟩
    split at failed
    · simp at failed
    · rename_i stopped
      refine ⟨fun placed possible => (by cases stopped.symm.trans possible), ?_⟩
      split at failed
      · rename_i next returned
        cases failed
        exact .inl ⟨next, returned, rfl⟩
      · rename_i lost
        cases failed
        exact .inr ⟨fun next possible => (by cases lost.symm.trans possible), rfl⟩

/-- What is in the way of a file is a folder. -/
theorem kind?_of_blocked {asFolder : Bool}
    (located : disk.locate path = .ok (.member outer name asFolder))
    (held : disk.kind? source = some (.file content)) (there : disk.isThere path = true)
    (blocked : ∀ placed, disk.moveFrom source path ≠ .ok placed) :
    disk.kind? (outer ++ [name]) = some .folder := by
  cases asFolder with
  | false =>
      cases moved : disk.moveFrom source path with
      | error error => exact kind?_of_moveFrom_error located held moved
      | ok placed => exact absurd moved (blocked placed)
  | true =>
      simp only [isThere, entryAt?, located] at there
      rw [kind?_eq_folder_iff]
      cases found : disk.get? (outer ++ [name]) with
      | none => simp [found] at there
      | some entry =>
          cases entry with
          | file bytes => simp [found, Tree.isFolder] at there
          | folder members => exact ⟨members, rfl⟩

theorem walk_of_both {first second third : Disk} {names : List Text} {next other : Place}
    (folders : ∀ place, first.kind? place = some .folder → second.kind? place = some .folder →
      third.kind? place = some .folder)
    (walked : first.walk place names = .ok next) (again : second.walk place names = .ok other) :
    third.walk place names = .ok next := by
  induction names generalizing place with
  | nil => exact walked
  | cons name rest ih =>
      obtain ⟨inner, entered, later⟩ := walk_cons_eq_ok_iff.mp walked
      obtain ⟨innerAgain, reentered, laterAgain⟩ := walk_cons_eq_ok_iff.mp again
      obtain rfl : innerAgain = inner := (eq_of_enter reentered).trans (eq_of_enter entered).symm
      refine walk_cons_eq_ok_iff.mpr ⟨innerAgain, ?_, ih later laterAgain⟩
      rcases enter_eq_ok_iff.mp entered with dot | dots | ⟨notDot, notDots, folder, rfl⟩
      · exact enter_eq_ok_iff.mpr (.inl dot)
      · exact enter_eq_ok_iff.mpr (.inr (.inl dots))
      · rcases enter_eq_ok_iff.mp reentered with ⟨dot, _⟩ | ⟨dots, _⟩ | ⟨_, _, folderAgain, _⟩
        · exact absurd dot notDot
        · exact absurd dots notDots
        · exact enter_of_enter (fun _ => folders _ folder folderAgain) entered

/-- Names that lead to a folder on two disks lead there on every disk that has the folders of
both. -/
theorem stagingFolder_of_both {first second third : Disk} {next other : Place}
    (walked : first.stagingFolder path = .ok next) (again : second.stagingFolder path = .ok other)
    (firstCurrent : first.current = third.current) (secondCurrent : second.current = third.current)
    (folders : ∀ place, first.kind? place = some .folder → second.kind? place = some .folder →
      third.kind? place = some .folder) : third.stagingFolder path = .ok next := by
  unfold stagingFolder at walked again ⊢
  cases parent : path.parent? with
  | none =>
      simp only [parent] at walked ⊢
      rw [← firstCurrent, walked]
  | some folder =>
      simp only [parent, start, firstCurrent, secondCurrent] at walked again ⊢
      exact walk_of_both folders walked again

/-- A disk on which the new bytes stand in a temporary file. -/
structure Staged (before staged : Disk) (path : Path) (outer : Place) (fresh : Text)
    (content : ByteArray) : Prop where
  walked : before.stagingFolder path = .ok outer
  absent : before.kind? (outer ++ [fresh]) = none
  sets : before.Sets staged (outer ++ [fresh]) (.file content)
  unlike : 'k' ∉ fresh

theorem exists_staged {temporary : Place}
    (made : before.stage path content = .ok (staged, temporary)) :
    ∃ outer fresh, temporary = outer ++ [fresh] ∧
      before.Staged staged path outer fresh content := by
  obtain ⟨absent, sets, outer, members, walked, _, rfl⟩ := sets_of_stage made
  exact ⟨outer, _, rfl, walked, absent, sets, not_mem_freshName members⟩

namespace Staged

variable (stagedFrom : before.Staged staged path outer fresh content)

include stagedFrom

theorem keeps : before.Keeps staged := stagedFrom.sets.keeps (by simp [stagedFrom.absent])

theorem back : staged.Keeps before := stagedFrom.sets.keeps_before

theorem held : staged.kind? (outer ++ [fresh]) = some (.file content) :=
  stagedFrom.sets.kind?_self

/-- Without the temporary file the disk is what it was. -/
theorem kind?_erase (other : Place) :
    (staged.erase (outer ++ [fresh])).kind? other = before.kind? other :=
  stagedFrom.sets.kind?_erase stagedFrom.absent other

theorem ne_of_there {other : Place} (there : before.kind? other ≠ none) :
    other ≠ outer ++ [fresh] := by
  rintro rfl
  exact there stagedFrom.absent

theorem kind?_of_there {other : Place} (there : before.kind? other ≠ none) :
    staged.kind? other = before.kind? other :=
  stagedFrom.sets.kind?_of_ne (stagedFrom.ne_of_there there)

section Dotted

variable {error : FileError} (located : before.locate path = .ok (.folder place))
  (failed : staged.moveAside (outer ++ [fresh]) path = (after, .error error))

include located failed

/-- A path that cannot be renamed is left alone, but for the file under its backup name. -/
theorem eq_of_folder : after = (staged.cleared (backupOf path)).erase (outer ++ [fresh]) := by
  have there := (stagedFrom.keeps.trans (keeps_cleared staged (backupOf path))).locate located
  rcases exists_of_moveAside_error failed with ⟨_, same⟩ | ⟨moved, done, _⟩
  · exact same
  · simp [move, there, bind, Except.bind] at done

theorem kind?_of_folder {other : Place} (outside : ∀ bytes,
      before.read (backupOf path) = .ok bytes → before.filePlace? (backupOf path) ≠ some other) :
    after.kind? other = before.kind? other := by
  rw [stagedFrom.eq_of_folder located failed, ← stagedFrom.kind?_erase other, Disk.kind?_erase,
    Disk.kind?_erase]
  split
  · rfl
  · rename_i notTemporary
    rcases cleared_cases staged (backupOf path) with
      ⟨holder, name, bytes, found, file, erased⟩ | ⟨_, same⟩
    · by_cases temporary : holder ++ [name] = outer ++ [fresh]
      · rw [erased, temporary, Disk.kind?_erase, if_neg notTemporary]
      · rw [stagedFrom.sets.kind?_of_ne temporary] at file
        have foundBefore := stagedFrom.back.filePlace? found
        have apart := outside bytes (read_eq_ok_iff.mpr ⟨_, foundBefore, file⟩)
        refine kind?_cleared_of_ne found ?_
        rintro rfl
        exact apart foundBefore
    · rw [same]

theorem restores_iff_of_folder : (∀ other, after.kind? other = before.kind? other) ↔
    ∀ bytes, before.read (backupOf path) ≠ .ok bytes := by
  constructor
  · intro same bytes read
    obtain ⟨backup, found, file⟩ := read_eq_ok_iff.mp read
    have stagedFile := (stagedFrom.kind?_of_there (by simp [file])).trans file
    have gone := kind?_cleared_self (stagedFrom.keeps.filePlace? found) (by simp [stagedFile])
    have missing := same backup
    rw [stagedFrom.eq_of_folder located failed, Disk.kind?_erase, file] at missing
    split at missing
    · contradiction
    · rw [gone] at missing
      contradiction
  · exact fun noFile other =>
      stagedFrom.kind?_of_folder located failed fun bytes read => absurd read (noFile bytes)

end Dotted

theorem folder_cleared (folder : before.kind? place = some .folder) :
    (staged.cleared (backupOf path)).kind? place = some .folder :=
  (keeps_cleared staged _).folder _ (stagedFrom.keeps.folder _ folder)

section Member

variable (final : path.Final name)

include final

theorem walked_staged : staged.stagingFolder path = .ok outer :=
  final.stagingFolder_of_keeps stagedFrom.keeps stagedFrom.walked

theorem walked_cleared : (staged.cleared (backupOf path)).stagingFolder path = .ok outer :=
  final.stagingFolder_of_keeps (keeps_cleared staged (backupOf path))
    (stagedFrom.walked_staged final)

theorem filePlace?_backupOf :
    staged.filePlace? (backupOf path) = some (outer ++ [Path.backupName name]) :=
  filePlace?_eq_some_iff.mpr
    ⟨_, _, final.locate_backupOf_of_walked (stagedFrom.walked_staged final), rfl⟩

variable (folder : before.kind? (outer ++ [name]) = some .folder)

include folder

/-- The temporary file stays where it is while the folder goes aside. -/
theorem held_aside
    (moved : (staged.cleared (backupOf path)).move path (backupOf path) = .ok aside) :
    aside.kind? (outer ++ [fresh]) = some (.file content) := by
  have unlike : Path.backupName name ≠ fresh := fun same =>
    stagedFrom.unlike (same ▸ Path.mem_backupName name)
  have otherwise : name ≠ fresh := by
    rintro rfl
    simp [stagedFrom.absent] at folder
  have still :
      (staged.cleared (backupOf path)).kind? (outer ++ [fresh]) = some (.file content) := by
    rw [kind?_cleared_of_ne (stagedFrom.filePlace?_backupOf final)
      (fun same => unlike (by simpa using same.symm)), stagedFrom.held]
  obtain ⟨members, held⟩ := kind?_eq_folder_iff.mp (stagedFrom.folder_cleared folder)
  rw [move_of_locate (final.locate_of_walked (stagedFrom.walked_cleared final))] at moved
  rcases moveFrom_folder (final.locate_backupOf_of_walked (stagedFrom.walked_cleared final))
    held moved with ⟨_, rfl⟩ | ⟨_, rfl⟩
  · exact still
  · rw [(renames_of_put held _).kind?_of_outside (not_prefix_of_concat_ne unlike)
      (not_prefix_of_concat_ne otherwise), still]

/-- A folder goes aside only if nothing is in what has its backup name. -/
theorem vacant_of_move (different : Path.backupName name ≠ name)
    (moved : (staged.cleared (backupOf path)).move path (backupOf path) = .ok aside) :
    before.Vacant (outer ++ [Path.backupName name]) := by
  intro inner
  by_contra there
  have holder : before.kind? (outer ++ [Path.backupName name]) = some .folder :=
    Tree.kind?_of_append (List.cons_ne_nil inner []) there
  have stays := (stagedFrom.kind?_of_there (by simp [holder])).trans holder
  obtain ⟨members, held⟩ := kind?_eq_folder_iff.mp (stagedFrom.folder_cleared folder)
  rw [move_of_locate (final.locate_of_walked (stagedFrom.walked_cleared final))] at moved
  obtain ⟨_, vacant, _⟩ := (moveFrom_folder_eq_ok_iff
    (final.locate_backupOf_of_walked (stagedFrom.walked_cleared final)) held
    (fun same => different (by simpa using same))).mp moved
  rw [cleared_of_folder (stagedFrom.filePlace?_backupOf final) stays] at vacant
  exact there ((stagedFrom.kind?_of_there there).symm.trans (vacant inner))

variable {error : FileError}
  (failed : staged.moveAside (outer ++ [fresh]) path = (after, .error error))

section Stays

include failed

/-- A folder that has its backup name already stays where it is. -/
theorem restores_of_same (same : Path.backupName name = name)
    (other : Place) : after.kind? other = before.kind? other := by
  have stays := (stagedFrom.kind?_of_there (by simp [folder])).trans folder
  have backup := stagedFrom.filePlace?_backupOf final
  have located := final.locate_of_walked (stagedFrom.walked_staged final)
  have backupLocated := final.locate_backupOf_of_walked (stagedFrom.walked_staged final)
  rw [same] at backup backupLocated
  have moved : (staged.cleared (backupOf path)).move path (backupOf path) = .ok staged := by
    rw [cleared_of_folder backup stays, move_of_locate located, moveFrom_self backupLocated stays]
  have returned : staged.move (backupOf path) path = .ok staged := by
    rw [move_of_locate backupLocated, moveFrom_self located stays]
  rcases exists_of_moveAside_error failed with ⟨stopped, _⟩ | ⟨aside, done, _, outcome⟩
  · exact absurd moved (stopped staged)
  · cases moved.symm.trans done
    rcases outcome with ⟨next, again, rfl⟩ | ⟨lost, _⟩
    · cases returned.symm.trans again
      exact stagedFrom.kind?_erase other
    · exact absurd returned (lost staged)

/-- A folder stays, too, if something is in what has its backup name. -/
theorem restores_of_not_vacant (different : Path.backupName name ≠ name)
    (full : ¬ before.Vacant (outer ++ [Path.backupName name])) (other : Place) :
    after.kind? other = before.kind? other := by
  obtain ⟨inner, there⟩ := not_forall.mp full
  have holder : before.kind? (outer ++ [Path.backupName name]) = some .folder :=
    Tree.kind?_of_append (List.cons_ne_nil inner []) there
  have stays := (stagedFrom.kind?_of_there (by simp [holder])).trans holder
  rcases exists_of_moveAside_error failed with ⟨_, rfl⟩ | ⟨aside, done, _⟩
  · rw [cleared_of_folder (stagedFrom.filePlace?_backupOf final) stays]
    exact stagedFrom.kind?_erase other
  · exact absurd (stagedFrom.vacant_of_move final folder different done) full

end Stays

variable (different : Path.backupName name ≠ name)

include different

section Aside

variable (renames : (staged.cleared (backupOf path)).Renames aside (outer ++ [name])
    (outer ++ [Path.backupName name]))
  (walked : aside.stagingFolder path = .ok outer)

include renames walked

/-- Nothing but a slash is in the way of the new file once the folder is aside. -/
theorem endsWithSlash_of_blocked
    (moved : (staged.cleared (backupOf path)).move path (backupOf path) = .ok aside)
    (blocked : ∀ placed, aside.moveFrom (outer ++ [fresh]) path ≠ .ok placed) :
    path.endsWithSlash = true := by
  by_contra unended
  have located := final.locate_of_walked walked
  rw [Bool.not_eq_true] at unended
  rw [unended] at located
  have held := stagedFrom.held_aside final folder moved
  have empty : aside.kind? (outer ++ [name]) = none := by
    have gone := renames.kind?_old different []
    rwa [List.append_nil] at gone
  have possible := (moveFrom_eq_ok_iff (kind?_eq_file_iff.mp held)).mpr
    ⟨_, filePlace?_eq_some_iff.mpr ⟨_, _, located, rfl⟩, by simp [empty], rfl⟩
  exact blocked _ possible

theorem exists_back : ∃ next, aside.move (backupOf path) path = .ok next ∧
    aside.Renames next (outer ++ [Path.backupName name]) (outer ++ [name]) := by
  have gone := renames.kind?_old different
  have empty : aside.kind? (outer ++ [name]) = none := by
    have whole := gone []
    rwa [List.append_nil] at whole
  have kept := renames.kind?_new []
  rw [List.append_nil, List.append_nil,
    stagedFrom.folder_cleared folder] at kept
  obtain ⟨members, held⟩ := kind?_eq_folder_iff.mp kept
  refine ⟨_, ?_, renames_of_put held name⟩
  rw [move_of_locate (final.locate_backupOf_of_walked walked)]
  exact (moveFrom_folder_eq_ok_iff (final.locate_of_walked walked) held
    (fun same => different (by simpa using same.symm))).mpr
    ⟨by simp [empty], fun inside => gone [inside], rfl⟩

end Aside

variable (vacant : before.Vacant (outer ++ [Path.backupName name]))

include vacant

/-- A folder goes aside if nothing is in what has its backup name. -/
theorem exists_renames : ∃ aside,
    (staged.cleared (backupOf path)).move path (backupOf path) = .ok aside ∧
      (staged.cleared (backupOf path)).Renames aside (outer ++ [name])
        (outer ++ [Path.backupName name]) := by
  have found := stagedFrom.filePlace?_backupOf final
  obtain ⟨members, held⟩ :=
    kind?_eq_folder_iff.mp (stagedFrom.folder_cleared folder)
  have stillVacant :
      (staged.cleared (backupOf path)).Vacant (outer ++ [Path.backupName name]) := by
    intro inner
    have deeper : outer ++ [Path.backupName name] ++ [inner] ≠ outer ++ [fresh] :=
      fun same => by simpa using congrArg List.length same
    rw [kind?_cleared_of_ne found (by simp), stagedFrom.sets.kind?_of_ne deeper, vacant inner]
  refine ⟨_, ?_, renames_of_put held _⟩
  rw [move_of_locate (final.locate_of_walked (stagedFrom.walked_cleared final))]
  exact (moveFrom_folder_eq_ok_iff
    (final.locate_backupOf_of_walked (stagedFrom.walked_cleared final)) held
    (fun same => different (by simpa using same))).mpr
    ⟨kind?_cleared_ne_file found, stillVacant, rfl⟩

/-- While the folder is aside its path leads somewhere exactly if it does so without it. -/
theorem leads_iff
    (renames : (staged.cleared (backupOf path)).Renames aside (outer ++ [name])
      (outer ++ [Path.backupName name])) : (∃ inner, aside.stagingFolder path = .ok inner) ↔
    ∃ inner, (before.erase (outer ++ [name])).stagingFolder path = .ok inner := by
  have found := stagedFrom.filePlace?_backupOf final
  have current : aside.current = before.current :=
    renames.current.trans ((keeps_cleared staged _).current.trans stagedFrom.keeps.current)
  constructor
  · rintro ⟨inner, walked⟩
    refine ⟨outer, stagingFolder_of_both stagedFrom.walked walked rfl current
      fun there holds stays => ?_⟩
    rw [Disk.kind?_erase, if_neg, holds]
    rintro ⟨rest, rfl⟩
    rw [renames.kind?_old different] at stays
    contradiction
  · rintro ⟨inner, walked⟩
    refine ⟨outer, stagingFolder_of_both stagedFrom.walked walked current.symm current.symm
      fun there holds stays => ?_⟩
    rw [Disk.kind?_erase] at stays
    split at stays
    · contradiction
    · rename_i outside
      by_cases under : outer ++ [Path.backupName name] <+: there
      · obtain ⟨rest, rfl⟩ := under
        by_cases below : rest = []
        · rw [below, renames.kind?_new, List.append_nil,
            stagedFrom.folder_cleared folder]
        · rw [vacant.below below] at holds
          contradiction
      · rw [renames.kind?_of_outside under outside, kind?_cleared_of_ne found,
          stagedFrom.kind?_of_there (by simp [holds]), holds]
        rintro rfl
        exact under (List.prefix_refl _)

include failed

/-- A folder does not come back if its path leads nowhere without it. -/
theorem renames_of_astray
    (astray : ∀ inner, (before.erase (outer ++ [name])).stagingFolder path ≠ .ok inner) :
    (staged.cleared (backupOf path)).Renames after (outer ++ [name])
      (outer ++ [Path.backupName name]) := by
  obtain ⟨aside, moved, renames⟩ := stagedFrom.exists_renames final folder different vacant
  rcases exists_of_moveAside_error failed with ⟨stopped, _⟩ | ⟨again, done, _, outcome⟩
  · exact absurd moved (stopped aside)
  · cases moved.symm.trans done
    rcases outcome with ⟨next, returned, _⟩ | ⟨_, rfl⟩
    · obtain ⟨target, located⟩ := exists_locate_of_move returned
      rw [final.locate_backupOf] at located
      cases walked : aside.stagingFolder path with
      | error error => simp [walked, Except.map] at located
      | ok inner =>
          obtain ⟨other, leads⟩ :=
            (stagedFrom.leads_iff final folder different vacant renames).mp ⟨inner, walked⟩
          exact absurd leads (astray other)
    · exact renames

theorem changes_of_astray
    (astray : ∀ inner, (before.erase (outer ++ [name])).stagingFolder path ≠ .ok inner) :
    after.kind? (outer ++ [name]) ≠ before.kind? (outer ++ [name]) := by
  have gone := (stagedFrom.renames_of_astray final folder failed different vacant astray).kind?_old
    different []
  rw [List.append_nil] at gone
  rw [gone, folder]
  simp

/-- A folder that comes back is as it was, but what had its backup name is gone. -/
theorem kind?_of_leads {inner : Place}
    (leads : (before.erase (outer ++ [name])).stagingFolder path = .ok inner) :
    path.endsWithSlash = true ∧ ∀ other, after.kind? other =
      if outer ++ [Path.backupName name] <+: other then none else before.kind? other := by
  obtain ⟨aside, moved, renames⟩ := stagedFrom.exists_renames final folder different vacant
  rcases exists_of_moveAside_error failed with ⟨stopped, _⟩ | ⟨again, done, blocked, outcome⟩
  · exact absurd moved (stopped aside)
  · cases moved.symm.trans done
    obtain ⟨target, walked⟩ :=
      (stagedFrom.leads_iff final folder different vacant renames).mpr ⟨inner, leads⟩
    obtain rfl :=
      final.stagingFolder_unique renames.current (stagedFrom.walked_cleared final) walked
    refine ⟨stagedFrom.endsWithSlash_of_blocked final folder different renames walked
      moved blocked, fun other => ?_⟩
    obtain ⟨next, returned, back⟩ :=
      stagedFrom.exists_back final folder different renames walked
    obtain rfl : after = next.erase (target ++ [fresh]) := by
      rcases outcome with ⟨other, again, rfl⟩ | ⟨lost, _⟩
      · cases returned.symm.trans again
        rfl
      · exact absurd returned (lost next)
    rw [← stagedFrom.kind?_erase other, Disk.kind?_erase, Disk.kind?_erase,
      renames.kind?_back back different]
    split
    · rw [ite_self]
    · split
      · rfl
      · rename_i outside
        rw [kind?_cleared_of_ne (stagedFrom.filePlace?_backupOf final)]
        rintro rfl
        exact outside (List.prefix_refl _)

theorem restores_iff_of_leads {inner : Place}
    (leads : (before.erase (outer ++ [name])).stagingFolder path = .ok inner) :
    path.endsWithSlash = true ∧ ((∀ other, after.kind? other = before.kind? other) ↔
      before.kind? (outer ++ [Path.backupName name]) = none) := by
  obtain ⟨slash, whole⟩ := stagedFrom.kind?_of_leads final folder failed different vacant leads
  refine ⟨slash, fun same => ?_, fun absent other => ?_⟩
  · rw [← same, whole, if_pos (List.prefix_refl _)]
  · rw [whole]
    split
    · rename_i under
      obtain ⟨rest, rfl⟩ := under
      by_cases here : rest = []
      · rw [here, List.append_nil, absent]
      · exact (vacant.below here).symm
    · rfl

end Member

end Staged

/-- What a replacement does not bring back when it fails. -/
inductive Strands (disk : Disk) (path : Path) : Prop where
  /-- A path that ends in a dot is not renamed, which shows only after the file under the backup
  name is removed. -/
  | dotted {place : Place} {bytes : ByteArray} (located : disk.locate path = .ok (.folder place))
      (backup : disk.read (backupOf path) = .ok bytes)
  /-- Behind a slash no file is placed, but the folder there goes aside and comes back, in the
  stead of a file or an empty folder. -/
  | slashed {outer : Place} {name : Text}
      (located : disk.locate path = .ok (.member outer name true))
      (folder : disk.kind? (outer ++ [name]) = some .folder)
      (different : Path.backupName name ≠ name)
      (vacant : disk.Vacant (outer ++ [Path.backupName name]))
      (backup : disk.kind? (outer ++ [Path.backupName name]) ≠ none)
  /-- A path that leads through the folder which goes aside leads nowhere afterwards. -/
  | astray {outer : Place} {name : Text} {asFolder : Bool}
      (located : disk.locate path = .ok (.member outer name asFolder))
      (folder : disk.kind? (outer ++ [name]) = some .folder)
      (different : Path.backupName name ≠ name)
      (vacant : disk.Vacant (outer ++ [Path.backupName name]))
      (through : ∀ inner, (disk.erase (outer ++ [name])).stagingFolder path ≠ .ok inner)

/-- A path that ends in a dot has a backup name only if it names a folder before the dot. -/
theorem exists_of_dotted_backup {backup : Place} (located : disk.locate path = .ok (.folder place))
    (found : disk.filePlace? (backupOf path) = some backup) :
    ∃ outer name, disk.stagingFolder path = .ok outer ∧ place = outer ++ [name] ∧
      disk.kind? (outer ++ [name]) = some .folder := by
  cases called : path.fileName? with
  | none =>
      rw [backupOf, Path.withExtension] at found
      simp [called, filePlace?, located] at found
  | some name =>
      obtain ⟨outer, walked, here, folder⟩ := exists_of_dotted located called
      exact ⟨outer, name, walked, here, folder⟩

theorem Strands.exists_folder (strands : disk.Strands path) :
    ∃ target outer name, disk.locate path = .ok target ∧ target.destination = outer ++ [name] ∧
      disk.stagingFolder path = .ok outer ∧ disk.kind? (outer ++ [name]) = some .folder := by
  cases strands with
  | slashed located folder =>
      exact ⟨_, _, _, located, rfl, (Path.stagingFolder_of_locate located).1, folder⟩
  | astray located folder =>
      exact ⟨_, _, _, located, rfl, (Path.stagingFolder_of_locate located).1, folder⟩
  | dotted located backup =>
      obtain ⟨_, found, _⟩ := read_eq_ok_iff.mp backup
      obtain ⟨outer, name, walked, rfl, folder⟩ := exists_of_dotted_backup located found
      exact ⟨_, outer, name, located, rfl, walked, folder⟩

theorem exists_stage (walked : disk.stagingFolder path = .ok outer)
    (folder : disk.kind? outer = some .folder) (content : ByteArray) :
    ∃ result, disk.stage path content = .ok result := by
  obtain ⟨members, held⟩ := kind?_eq_folder_iff.mp folder
  exact ⟨_, by simp only [stage, walked, held, bind, Except.bind]; rfl⟩

theorem isThere_of_isFolder (folder : disk.isFolder path = true) : disk.isThere path = true := by
  unfold isFolder at folder
  unfold isThere
  cases entry : disk.entryAt? path with
  | none => simp [entry] at folder
  | some tree => rfl

theorem exists_of_replace_error {error : WriteError}
    (failed : before.replace path content = (after, .error error)) :
    (∀ result, before.stage path content ≠ .ok result) ∧ after = before ∨
      ∃ staged temporary, before.stage path content = .ok (staged, temporary) ∧
        (staged.isThere path = false ∧ after = staged.erase temporary ∨
          (∀ placed, staged.moveFrom temporary path ≠ .ok placed) ∧
            staged.isThere path = true ∧
            ∃ cause, staged.moveAside temporary path = (after, .error cause)) := by
  unfold replace at failed
  cases made : before.stage path content with
  | error cause =>
      simp only [made, Prod.mk.injEq] at failed
      exact .inl ⟨by simp, failed.1.symm⟩
  | ok result =>
      obtain ⟨staged, temporary⟩ := result
      refine .inr ⟨staged, temporary, rfl, ?_⟩
      simp only [made] at failed
      cases moved : staged.moveFrom temporary path with
      | ok placed => simp [moved] at failed
      | error cause =>
          simp only [moved] at failed
          split at failed
          · rename_i there
            cases aside : staged.moveAside temporary path with
            | mk last outcome =>
                rw [aside] at failed
                cases outcome with
                | ok _ => cases failed
                | error reason =>
                    cases failed
                    exact .inr ⟨by simp, there, reason, rfl⟩
          · rename_i missing
            simp only [Prod.mk.injEq] at failed
            exact .inl ⟨by simpa using missing, failed.1.symm⟩

theorem current_of_replace_error {error : WriteError}
    (failed : before.replace path content = (after, .error error)) :
    after.current = before.current := by
  rcases exists_of_replace_error failed with ⟨_, rfl⟩ | ⟨staged, temporary, made, outcome⟩
  · rfl
  · obtain ⟨outer, fresh, rfl, stagedFrom⟩ := exists_staged made
    have stagedCurrent : staged.current = before.current := stagedFrom.keeps.current
    rcases outcome with ⟨_, rfl⟩ | ⟨_, _, _, failed⟩
    · exact stagedCurrent
    · have cleared := (keeps_cleared staged (backupOf path)).current.trans stagedCurrent
      rcases exists_of_moveAside_error failed with ⟨_, rfl⟩ | ⟨moved, done, _, outcome⟩
      · exact cleared
      · have current := (current_of_move done).trans cleared
        rcases outcome with ⟨next, returned, rfl⟩ | ⟨_, rfl⟩
        · exact (current_of_move returned).trans current
        · exact current

theorem strands_iff_of_folder (located : disk.locate path = .ok (.folder place)) :
    disk.Strands path ↔ ∃ bytes, disk.read (backupOf path) = .ok bytes := by
  constructor
  · intro strands
    cases strands with
    | dotted _ backup => exact ⟨_, backup⟩
    | slashed other => cases located.symm.trans other
    | astray other => cases located.symm.trans other
  · rintro ⟨bytes, backup⟩
    exact .dotted located backup

theorem strands_iff_of_member {asFolder : Bool}
    (located : disk.locate path = .ok (.member outer name asFolder))
    (folder : disk.kind? (outer ++ [name]) = some .folder) :
    disk.Strands path ↔ Path.backupName name ≠ name ∧
      disk.Vacant (outer ++ [Path.backupName name]) ∧
      (asFolder = true ∧ disk.kind? (outer ++ [Path.backupName name]) ≠ none ∨
        ∀ inner, (disk.erase (outer ++ [name])).stagingFolder path ≠ .ok inner) := by
  constructor
  · intro strands
    cases strands with
    | dotted other => cases located.symm.trans other
    | slashed other _ different vacant backup =>
        cases located.symm.trans other
        exact ⟨different, vacant, .inl ⟨rfl, backup⟩⟩
    | astray other _ different vacant through =>
        cases located.symm.trans other
        exact ⟨different, vacant, .inr through⟩
  · rintro ⟨different, vacant, ⟨rfl, backup⟩ | through⟩
    · exact .slashed located folder different vacant backup
    · exact .astray located folder different vacant through

/-- What is in the way of a staged file, and is there: a folder, which the path names or dots to. -/
theorem Staged.blocked_cases (stagedFrom : before.Staged staged path outer fresh content)
    (there : staged.isThere path = true)
    (blocked : ∀ placed, staged.moveFrom (outer ++ [fresh]) path ≠ .ok placed) :
    (∃ place, before.locate path = .ok (.folder place)) ∨
      ∃ name asFolder, before.locate path = .ok (.member outer name asFolder) ∧
        before.kind? (outer ++ [name]) = some .folder := by
  cases located : staged.locate path with
  | error error => simp [isThere, entryAt?, located] at there
  | ok target =>
      have locatedBefore := stagedFrom.back.locate located
      cases target with
      | folder place => exact .inl ⟨place, locatedBefore⟩
      | member holder name asFolder =>
          have folder := kind?_of_blocked located stagedFrom.held there blocked
          have walked := (Path.stagingFolder_of_locate locatedBefore).1
          cases stagedFrom.walked.symm.trans walked
          exact .inr ⟨name, asFolder, locatedBefore, stagedFrom.back.folder _ folder⟩

theorem Staged.restores_iff_of_member {asFolder : Bool} {error : FileError}
    (stagedFrom : before.Staged staged path outer fresh content)
    (located : before.locate path = .ok (.member outer name asFolder))
    (folder : before.kind? (outer ++ [name]) = some .folder)
    (failed : staged.moveAside (outer ++ [fresh]) path = (after, .error error)) :
    (∀ other, after.kind? other = before.kind? other) ↔ ¬ before.Strands path := by
  have final := Path.final_of_locate located
  rw [strands_iff_of_member located folder]
  by_cases same : Path.backupName name = name
  · exact iff_of_true (stagedFrom.restores_of_same final folder failed same)
      fun strands => strands.1 same
  by_cases vacant : before.Vacant (outer ++ [Path.backupName name])
  case neg =>
    exact iff_of_true (stagedFrom.restores_of_not_vacant final folder failed same vacant)
      fun strands => vacant strands.2.1
  case pos =>
    by_cases through : ∀ inner, (before.erase (outer ++ [name])).stagingFolder path ≠ .ok inner
    · have changed := stagedFrom.changes_of_astray final folder failed same vacant through
      exact iff_of_false (fun unchanged => changed (unchanged _))
        (not_not.mpr ⟨same, vacant, .inr through⟩)
    · obtain ⟨inner, leads⟩ : ∃ inner,
          (before.erase (outer ++ [name])).stagingFolder path = .ok inner := by
        simpa using through
      obtain ⟨slash, restored⟩ :=
        stagedFrom.restores_iff_of_leads final folder failed same vacant leads
      obtain ⟨_, rfl⟩ := Path.stagingFolder_of_locate located
      rw [restored]
      simp [same, vacant, through, slash]

theorem restores_iff {error : WriteError}
    (failed : before.replace path content = (after, .error error)) :
    (∀ place, after.kind? place = before.kind? place) ↔ ¬ before.Strands path := by
  rcases exists_of_replace_error failed with
    ⟨unstaged, rfl⟩ | ⟨staged, temporary, made, outcome⟩
  · refine iff_of_true (fun _ => rfl) fun strands => ?_
    obtain ⟨_, outer, name, _, _, walked, folder⟩ := strands.exists_folder
    obtain ⟨result, made⟩ := exists_stage walked (kind?_holder folder) content
    exact unstaged result made
  · obtain ⟨outer, fresh, rfl, stagedFrom⟩ := exists_staged made
    rcases outcome with ⟨missing, rfl⟩ | ⟨blocked, there, cause, failed⟩
    · refine iff_of_true stagedFrom.kind?_erase fun strands => ?_
      obtain ⟨target, _, _, located, leads, _, folder⟩ := strands.exists_folder
      have isFolder : before.isFolder path = true :=
        isFolder_iff.mpr ⟨target, located, leads ▸ folder⟩
      rw [isThere_of_isFolder (stagedFrom.keeps.isFolder isFolder)] at missing
      contradiction
    · rcases stagedFrom.blocked_cases there blocked with
        ⟨place, located⟩ | ⟨name, asFolder, located, folder⟩
      · rw [stagedFrom.restores_iff_of_folder located failed, strands_iff_of_folder located,
          not_exists]
      · exact stagedFrom.restores_iff_of_member located folder failed

/-- A replacement that succeeds has its path name a file. -/
theorem named_of_replace (replaced : before.replace path content = (after, .ok ())) :
    ∃ name, path.Named name := by
  have named : ∀ {disk : Disk} {place : Place}, disk.filePlace? path = some place →
      ∃ name, path.Named name := by
    intro disk place found
    obtain ⟨outer, name, located, _⟩ := filePlace?_eq_some_iff.mp found
    exact ⟨name, (Path.final_of_locate located).named
      (Path.stagingFolder_of_locate located).2.symm⟩
  obtain ⟨staged, temporary, made, outcome⟩ := exists_of_replace replaced
  obtain ⟨outer, fresh, rfl, stagedFrom⟩ := exists_staged made
  rcases outcome with moved | ⟨error, failed, there, replaced⟩
  · obtain ⟨_, found, _⟩ := (moveFrom_eq_ok_iff (kind?_eq_file_iff.mp stagedFrom.held)).mp moved
    exact named found
  · obtain ⟨aside, placed, moved, placing, _⟩ := exists_of_moveAside replaced
    rcases stagedFrom.blocked_cases there (by simp [failed]) with
      ⟨place, located⟩ | ⟨name, asFolder, located, folder⟩
    · have again := (stagedFrom.keeps.trans (keeps_cleared staged (backupOf path))).locate located
      have stopped : (staged.cleared (backupOf path)).move path (backupOf path) =
          .error .busy := by simp [move, again, bind, Except.bind]
      cases stopped.symm.trans moved
    · have held := stagedFrom.held_aside (Path.final_of_locate located) folder moved
      obtain ⟨_, found, _⟩ := (moveFrom_eq_ok_iff (kind?_eq_file_iff.mp held)).mp placing
      exact named found

end Disk

end GraphPrograms
