import GraphPrograms.Proofs.Files.Writing

/-!
What moving an entry to another name does, and removing the file that has a name.

A folder that is moved takes along what is in it (`renames_of_put`), and it goes only where nothing
is or an empty folder (`moveFrom_folder_eq_ok_iff`).
-/

namespace GraphPrograms.Disk

variable {disk before aside after : Disk} {path : Path} {place target outer source : Place}
  {name new : Text} {members : List (Text × Tree)} {kind : Kind}

/-- A disk that another one becomes when what stands at one place goes to another one, where it
takes the place of what is there. -/
structure Renames (before after : Disk) (place new : Place) : Prop where
  current : after.current = before.current
  kind? : ∀ other, after.kind? other =
    if new <+: other then before.kind? (place ++ other.drop new.length)
    else if place <+: other then none
    else before.kind? other

theorem Renames.kind?_new (renames : before.Renames after place target) (rest : Place) :
    after.kind? (target ++ rest) = before.kind? (place ++ rest) := by
  rw [renames.kind?, if_pos (List.prefix_append target rest), List.drop_left]

theorem Renames.kind?_of_outside (renames : before.Renames after place target) {other : Place}
    (notNew : ¬ target <+: other) (notOld : ¬ place <+: other) :
    after.kind? other = before.kind? other := by
  rw [renames.kind?, if_neg notNew, if_neg notOld]

theorem not_prefix_of_ne (different : new ≠ name) (rest : Place) :
    ¬ outer ++ [new] <+: outer ++ [name] ++ rest := by
  rw [List.append_assoc, List.prefix_append_right_inj, List.singleton_append,
    List.cons_prefix_cons]
  exact fun same => different same.1

theorem not_prefix_of_concat_ne (different : new ≠ name) :
    ¬ outer ++ [new] <+: outer ++ [name] := by
  have apart : ¬ outer ++ [new] <+: outer ++ [name] ++ [] := not_prefix_of_ne different []
  rwa [List.append_nil] at apart

/-- Nothing is in two members of a folder. -/
theorem not_prefix_of_sibling (different : new ≠ name) (under : outer ++ [name] <+: place) :
    ¬ outer ++ [new] <+: place := by
  obtain ⟨rest, rfl⟩ := under
  exact not_prefix_of_ne different rest

theorem kind?_holder (there : disk.kind? (outer ++ [name]) = some kind) :
    disk.kind? outer = some .folder := by
  refine Tree.kind?_of_append (List.cons_ne_nil name []) fun absent => ?_
  rw [kind?, absent] at there
  contradiction

theorem not_prefix_outer (outer : Place) (name : Text) : ¬ outer ++ [name] <+: outer := by
  intro under
  have longer := under.length_le
  rw [List.length_append, List.length_singleton] at longer
  omega

/-- A folder takes what is in it along to its new name. -/
theorem renames_of_put (found : disk.get? (outer ++ [name]) = some (.folder members)) (new : Text) :
    disk.Renames ((disk.erase (outer ++ [name])).put (outer ++ [new]) (.folder members))
      (outer ++ [name]) (outer ++ [new]) where
  current := rfl
  kind? := by
    intro other
    have inFolder : (disk.erase (outer ++ [name])).kind? outer = some .folder := by
      rw [kind?_erase, if_neg (not_prefix_outer outer name)]
      exact kind?_holder (kind?_eq_folder_iff.mpr ⟨members, found⟩)
    refine (Tree.kind?_put inFolder new (.folder members) other).trans ?_
    split
    · rw [List.length_append, List.length_singleton, Disk.kind?, Tree.kind?, Tree.kind?,
        Tree.get?_append, ← get?, found, Option.bind_some]
    · exact kind?_erase disk outer name other

theorem Renames.kind?_old (renames : before.Renames after (outer ++ [name]) (outer ++ [new]))
    (different : new ≠ name) (rest : Place) : after.kind? (outer ++ [name] ++ rest) = none := by
  rw [renames.kind?, if_neg (not_prefix_of_ne different rest), if_pos (List.prefix_append _ rest)]

/-- What goes to another name and back is where it was, and what had the other name is gone. -/
theorem Renames.kind?_back (renames : before.Renames aside (outer ++ [name]) (outer ++ [new]))
    (back : aside.Renames after (outer ++ [new]) (outer ++ [name])) (different : new ≠ name)
    (other : Place) :
    after.kind? other = if outer ++ [new] <+: other then none else before.kind? other := by
  rw [back.kind?]
  by_cases underOld : outer ++ [name] <+: other
  · obtain ⟨rest, rfl⟩ := underOld
    rw [if_pos (List.prefix_append _ rest), List.drop_left, renames.kind?_new,
      if_neg (not_prefix_of_ne different rest)]
  · rw [if_neg underOld]
    split
    · rfl
    · rename_i underNew
      exact renames.kind?_of_outside underNew underOld

theorem move_of_locate {asFolder : Bool}
    (located : disk.locate path = .ok (.member outer name asFolder)) (target : Path) :
    disk.move path target = disk.moveFrom (outer ++ [name]) target := by
  simp only [move, located, bind, Except.bind]

theorem moveFrom_self {asFolder : Bool}
    (located : disk.locate path = .ok (.member outer name asFolder))
    (folder : disk.kind? (outer ++ [name]) = some .folder) :
    disk.moveFrom (outer ++ [name]) path = .ok disk := by
  obtain ⟨members, held⟩ := kind?_eq_folder_iff.mp folder
  simp only [moveFrom, located, held, bind, Except.bind, if_pos]

theorem exists_locate_of_move {target : Path} (moved : disk.move path target = .ok after) :
    ∃ led, disk.locate path = .ok led := by
  cases located : disk.locate path with
  | error error => simp [move, located, bind, Except.bind] at moved
  | ok led => exact ⟨led, rfl⟩

theorem exists_locate_of_moveFrom (moved : disk.moveFrom source path = .ok after) :
    ∃ led, disk.locate path = .ok led := by
  cases located : disk.locate path with
  | error error => simp [moveFrom, located, bind, Except.bind] at moved
  | ok led => exact ⟨led, rfl⟩

theorem current_of_moveFrom (moved : disk.moveFrom source path = .ok after) :
    after.current = disk.current := by
  cases located : disk.locate path with
  | error error => simp [moveFrom, located, bind, Except.bind] at moved
  | ok target =>
      simp only [moveFrom, located, bind, Except.bind] at moved
      repeat' split at moved
      all_goals cases moved
      all_goals rfl

theorem current_of_move {target : Path} (moved : disk.move path target = .ok after) :
    after.current = disk.current := by
  obtain ⟨led, located⟩ := exists_locate_of_move moved
  cases led with
  | folder place => simp [move, located, bind, Except.bind] at moved
  | member outer name asFolder =>
      rw [move_of_locate located] at moved
      exact current_of_moveFrom moved

/-- A folder goes where nothing is or an empty folder. -/
theorem moveFrom_folder_eq_ok_iff {asFolder : Bool}
    (located : disk.locate path = .ok (.member outer new asFolder))
    (held : disk.get? source = some (.folder members)) (different : outer ++ [new] ≠ source) :
    disk.moveFrom source path = .ok after ↔
      (∀ bytes, disk.kind? (outer ++ [new]) ≠ some (.file bytes)) ∧
        disk.Vacant (outer ++ [new]) ∧
        after = (disk.erase source).put (outer ++ [new]) (.folder members) := by
  simp only [moveFrom, located, held, bind, Except.bind, if_neg different, ne_eq,
    kind?_eq_file_iff]
  cases there : disk.get? (outer ++ [new]) with
  | none =>
      have vacant : disk.Vacant (outer ++ [new]) := fun name =>
        kind?_below (by simp [kind?_eq_none_iff.mpr there]) (List.cons_ne_nil name [])
      simp [vacant, eq_comm]
  | some entry =>
      cases entry with
      | file bytes => simp
      | folder inner =>
          cases inner with
          | nil => simp [(vacant_iff there).mpr rfl, eq_comm]
          | cons member rest => simp [vacant_iff there]

theorem moveFrom_folder (located : disk.locate path = .ok (.member outer new false))
    (held : disk.get? source = some (.folder members))
    (moved : disk.moveFrom source path = .ok after) :
    outer ++ [new] = source ∧ after = disk ∨
      outer ++ [new] ≠ source ∧
        after = (disk.erase source).put (outer ++ [new]) (.folder members) := by
  by_cases same : outer ++ [new] = source
  · subst same
    have stays := moveFrom_self located (kind?_eq_folder_iff.mpr ⟨members, held⟩)
    exact .inl ⟨rfl, Except.ok.inj (moved.symm.trans stays)⟩
  · exact .inr ⟨same, ((moveFrom_folder_eq_ok_iff located held same).mp moved).2.2⟩

theorem removeFile_eq_ok_iff : disk.removeFile path = .ok after ↔
    ∃ place, disk.filePlace? path = some place ∧
      (∃ bytes, disk.kind? place = some (.file bytes)) ∧ after = disk.erase place := by
  cases located : disk.locate path with
  | error error => simp [removeFile, filePlace?, located, bind, Except.bind]
  | ok target =>
      cases target with
      | folder place => simp [removeFile, filePlace?, located, bind, Except.bind]
      | member folder name asFolder =>
          cases asFolder with
          | false =>
              simp only [removeFile, filePlace?, located, bind, Except.bind, kind?_eq_file_iff]
              cases there : disk.get? (folder ++ [name]) with
              | none => simp [there]
              | some entry => cases entry <;> simp [there, eq_comm]
          | true =>
              simp only [removeFile, filePlace?, located, bind, Except.bind]
              cases disk.get? (folder ++ [name]) with
              | none => simp
              | some entry => cases entry <;> simp

/-- The disk without the file at a path, if there is one. -/
def cleared (disk : Disk) (path : Path) : Disk := ((disk.removeFile path).toOption).getD disk

theorem cleared_cases (disk : Disk) (path : Path) :
    (∃ outer name bytes, disk.filePlace? path = some (outer ++ [name]) ∧
      disk.kind? (outer ++ [name]) = some (.file bytes) ∧
      disk.cleared path = disk.erase (outer ++ [name])) ∨
    (∀ bytes, disk.read path ≠ .ok bytes) ∧ disk.cleared path = disk := by
  cases removed : disk.removeFile path with
  | error error =>
      refine .inr ⟨fun bytes read => ?_, by rw [cleared, removed]; rfl⟩
      obtain ⟨place, found, file⟩ := read_eq_ok_iff.mp read
      have possible := removeFile_eq_ok_iff.mpr ⟨place, found, ⟨bytes, file⟩, rfl⟩
      rw [removed] at possible
      contradiction
  | ok after =>
      obtain ⟨place, found, ⟨bytes, file⟩, rfl⟩ := removeFile_eq_ok_iff.mp removed
      obtain ⟨outer, name, _, rfl⟩ := filePlace?_eq_some_iff.mp found
      exact .inl ⟨outer, name, bytes, found, file, by rw [cleared, removed]; rfl⟩

theorem keeps_cleared (disk : Disk) (path : Path) : disk.Keeps (disk.cleared path) := by
  rcases cleared_cases disk path with ⟨outer, name, bytes, _, file, erased⟩ | ⟨_, same⟩
  · rw [erased]
    refine ⟨rfl, fun other folder => ?_⟩
    rw [kind?_erase_file file, if_neg, folder]
    rintro rfl
    simp [file] at folder
  · rw [same]
    exact .refl disk

section Cleared

variable (found : disk.filePlace? path = some place)

include found

theorem cleared_of_folder (folder : disk.kind? place = some .folder) :
    disk.cleared path = disk := by
  rcases cleared_cases disk path with ⟨outer, name, bytes, again, file, _⟩ | ⟨_, same⟩
  · cases found.symm.trans again
    simp [file] at folder
  · exact same

theorem kind?_cleared_self (notFolder : disk.kind? place ≠ some .folder) :
    (disk.cleared path).kind? place = none := by
  rcases cleared_cases disk path with ⟨outer, name, bytes, again, file, erased⟩ | ⟨noFile, same⟩
  · cases found.symm.trans again
    rw [erased, kind?_erase_file file, if_pos rfl]
  · rw [same]
    cases there : disk.kind? place with
    | none => rfl
    | some kind =>
        cases kind with
        | folder => contradiction
        | file bytes => exact absurd (read_eq_ok_iff.mpr ⟨place, found, there⟩) (noFile bytes)

theorem kind?_cleared_of_ne {other : Place} (different : other ≠ place) :
    (disk.cleared path).kind? other = disk.kind? other := by
  rcases cleared_cases disk path with ⟨outer, name, bytes, again, file, erased⟩ | ⟨_, same⟩
  · cases found.symm.trans again
    rw [erased, kind?_erase_file file, if_neg different]
  · rw [same]

theorem kind?_cleared_of_outside {other : Place} (outside : ¬ place <+: other) :
    (disk.cleared path).kind? other = disk.kind? other := by
  refine kind?_cleared_of_ne found ?_
  rintro rfl
  exact outside (List.prefix_refl _)

theorem kind?_cleared_ne_file (bytes : ByteArray) :
    (disk.cleared path).kind? place ≠ some (.file bytes) := by
  intro file
  by_cases folder : disk.kind? place = some .folder
  · rw [cleared_of_folder found folder, folder] at file
    simp at file
  · rw [kind?_cleared_self found folder] at file
    contradiction

end Cleared

end GraphPrograms.Disk
