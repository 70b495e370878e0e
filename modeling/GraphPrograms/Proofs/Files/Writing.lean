import GraphPrograms.Files.Replace
import GraphPrograms.Proofs.Files.Resolution

/-!
What the operations that write leave on a disk.

Appending to a file and replacing one change a single place (`sets_of_append`, `sets_of_replace`),
although a replacement goes through a temporary file.  Making folders changes no file
(`grows_makeFolders`).
-/

namespace GraphPrograms

namespace Disk

variable {disk before after : Disk} {path : Path} {place source : Place} {content : ByteArray}

theorem eq_of_toOption {Error Value : Type} {result : Disk × Except Error Value} {value : Value}
    (succeeded : result.2.toOption = some value) : result = (result.1, .ok value) := by
  obtain ⟨disk, outcome⟩ := result
  cases outcome with
  | error error => contradiction
  | ok other => rw [Option.some.inj succeeded]

theorem eq_of_outcome {Outcome : Type} {result : Disk × Outcome} {outcome : Outcome}
    (ended : result.2 = outcome) : result = (result.1, outcome) :=
  Prod.ext rfl ended

theorem Keeps.isFolder (keeps : before.Keeps after) (folder : before.isFolder path = true) :
    after.isFolder path = true := by
  obtain ⟨target, located, found⟩ := isFolder_iff.mp folder
  exact isFolder_iff.mpr ⟨target, keeps.locate located, keeps.folder _ found⟩

theorem Keeps.isFolder_eq_false (back : after.Keeps before) (clear : before.isFolder path = false) :
    after.isFolder path = false := by
  rw [← Bool.not_eq_true] at clear ⊢
  exact mt back.isFolder clear

/-- Disks with the same folders have the same places for files. -/
theorem Keeps.filePlace?_eq (keeps : before.Keeps after) (back : after.Keeps before) (path : Path) :
    after.filePlace? path = before.filePlace? path := by
  apply Option.ext
  intro place
  exact ⟨back.filePlace?, keeps.filePlace?⟩

theorem kind?_of_filePlace? (clear : disk.isFolder path = false)
    (found : disk.filePlace? path = some place) : disk.kind? place ≠ some .folder := by
  intro folder
  obtain ⟨outer, name, located, rfl⟩ := filePlace?_eq_some_iff.mp found
  have there : disk.isFolder path = true := isFolder_iff.mpr ⟨_, located, folder⟩
  rw [clear] at there
  contradiction

theorem putFile_sets_of_filePlace? (grounded : disk.Grounded)
    (found : disk.filePlace? path = some place) (notFolder : disk.kind? place ≠ some .folder)
    (content : ByteArray) : disk.Sets (disk.put place (.file content)) place (.file content) := by
  obtain ⟨outer, name, located, rfl⟩ := filePlace?_eq_some_iff.mp found
  exact putFile_sets content (kind?_of_locate grounded located) notFolder

theorem exists_of_append {bytes : ByteArray} (appended : before.append path bytes = .ok after) :
    ∃ outer name old, before.locate path = .ok (.member outer name false) ∧
      (before.kind? (outer ++ [name]) = some (.file old) ∨
        before.kind? (outer ++ [name]) = none ∧ old = ByteArray.empty) ∧
      after = before.put (outer ++ [name]) (.file (old ++ bytes)) := by
  unfold append at appended
  cases located : before.locate path with
  | error error => simp [located, bind, Except.bind] at appended
  | ok target =>
      simp only [located, bind, Except.bind] at appended
      cases target with
      | folder place => contradiction
      | member outer name asFolder =>
          cases asFolder with
          | true => contradiction
          | false =>
              cases found : before.get? (outer ++ [name]) with
              | none =>
                  simp only [found] at appended
                  cases appended
                  exact ⟨outer, name, ByteArray.empty, rfl, .inr ⟨kind?_eq_none_iff.mpr found, rfl⟩,
                    by rw [ByteArray.empty_append]⟩
              | some entry =>
                  cases entry with
                  | folder members => simp [found] at appended
                  | file old =>
                      simp only [found] at appended
                      cases appended
                      exact ⟨outer, name, old, rfl, .inl (kind?_eq_file_iff.mpr found), rfl⟩

theorem sets_of_append {bytes : ByteArray} (grounded : before.Grounded)
    (appended : before.append path bytes = .ok after) :
    ∃ place old, before.filePlace? path = some place ∧
      (before.kind? place = some (.file old) ∨
        before.kind? place = none ∧ old = ByteArray.empty) ∧
      before.Sets after place (.file (old ++ bytes)) := by
  obtain ⟨outer, name, old, located, held, rfl⟩ := exists_of_append appended
  have found := filePlace?_eq_some_iff.mpr ⟨outer, name, located, rfl⟩
  refine ⟨_, old, found, held, putFile_sets_of_filePlace? grounded found ?_ _⟩
  rcases held with file | ⟨absent, _⟩ <;> simp [*]

theorem lookup_freshName (members : List (Text × Tree)) :
    members.lookup (freshName members) = none := by
  rw [List.lookup_eq_none_iff]
  intro member listed
  have shorter : member.1.length ≤ (members.flatMap Prod.fst).length :=
    (List.sublist_flatten_of_mem (List.mem_map_of_mem listed)).length_le
  rw [bne_iff_ne]
  intro same
  have longer := congrArg List.length same
  have start : ".tmp".toList.length = 4 := rfl
  simp only [freshName, List.length_append, List.length_replicate] at longer
  omega

/-- A temporary file is put where nothing was. -/
theorem sets_of_stage {temporary : Place}
    (staged : before.stage path content = .ok (after, temporary)) :
    before.kind? temporary = none ∧ before.Sets after temporary (.file content) ∧
      ∃ outer members, before.stagingFolder path = .ok outer ∧ before.kind? outer = some .folder ∧
        temporary = outer ++ [freshName members] := by
  unfold stage at staged
  cases walked : before.stagingFolder path with
  | error error => simp [walked, bind, Except.bind] at staged
  | ok folder =>
      simp only [walked, bind, Except.bind] at staged
      split at staged
      · rename_i members found
        cases staged
        have absent : before.kind? (folder ++ [freshName members]) = none := by
          rw [kind?_eq_none_iff, get?, Tree.get?_append, ← get?, found, Option.bind_some,
            Tree.get?, lookup_freshName]
          rfl
        have inFolder := kind?_eq_folder_iff.mpr ⟨members, found⟩
        exact ⟨absent, putFile_sets content inFolder (by simp [absent]), folder, members, rfl,
          inFolder, rfl⟩
      · contradiction
      · contradiction

/-- What was put where nothing was leaves nothing behind. -/
theorem Sets.kind?_erase {kind : Kind} {name : Text}
    (sets : before.Sets after (place ++ [name]) kind)
    (absent : before.kind? (place ++ [name]) = none) (other : Place) :
    (after.erase (place ++ [name])).kind? other = before.kind? other := by
  rw [Disk.kind?_erase]
  split
  · rename_i under
    obtain ⟨rest, rfl⟩ := under
    cases rest with
    | nil => rw [List.append_nil, absent]
    | cons first later =>
        exact (kind?_below (by simp [absent]) (List.cons_ne_nil first later)).symm
  · rename_i outside
    refine sets.kind?_of_ne ?_
    rintro rfl
    exact outside (List.prefix_refl _)

theorem moveFrom_eq_ok_iff (held : disk.get? source = some (.file content)) :
    disk.moveFrom source path = .ok after ↔
      ∃ place, disk.filePlace? path = some place ∧ disk.kind? place ≠ some .folder ∧
        after = (disk.erase source).put place (.file content) := by
  unfold moveFrom filePlace?
  cases located : disk.locate path with
  | error error => simp [bind, Except.bind]
  | ok target =>
      cases target with
      | folder place => simp [bind, Except.bind]
      | member outer name asFolder =>
          simp only [bind, Except.bind, held, ne_eq, kind?_eq_folder_iff]
          cases asFolder with
          | true => simp
          | false =>
              cases found : disk.get? (outer ++ [name]) with
              | none => simp [found, eq_comm]
              | some entry => cases entry <;> simp [found, eq_comm]

/-- What is there and is no folder can be replaced. -/
theorem exists_filePlace? (grounded : disk.Grounded) (there : disk.isThere path = true)
    (clear : disk.isFolder path = false) : ∃ place, disk.filePlace? path = some place := by
  unfold isThere entryAt? at there
  cases located : disk.locate path with
  | error error => simp [located] at there
  | ok target =>
      cases target with
      | folder place =>
          have folder : disk.isFolder path = true :=
            isFolder_iff.mpr ⟨_, located, kind?_of_locate grounded located⟩
          rw [clear] at folder
          contradiction
      | member outer name asFolder =>
          cases asFolder with
          | false => exact ⟨_, filePlace?_eq_some_iff.mpr ⟨outer, name, located, rfl⟩⟩
          | true =>
              -- Only a folder would be there for a path that asks for one.
              simp only [located] at there
              cases found : disk.get? (outer ++ [name]) with
              | none => simp [found] at there
              | some entry =>
                  cases entry with
                  | file bytes => simp [found, Tree.isFolder] at there
                  | folder members =>
                      have folder : disk.isFolder path = true :=
                        isFolder_iff.mpr ⟨_, located, kind?_eq_folder_iff.mpr ⟨members, found⟩⟩
                      rw [clear] at folder
                      contradiction

theorem exists_of_replace (replaced : before.replace path content = (after, .ok ())) :
    ∃ staged temporary, before.stage path content = .ok (staged, temporary) ∧
      (staged.moveFrom temporary path = .ok after ∨
        ∃ error, staged.moveFrom temporary path = .error error ∧ staged.isThere path = true ∧
          staged.moveAside temporary path = (after, .ok ())) := by
  unfold replace at replaced
  cases made : before.stage path content with
  | error error => simp [made] at replaced
  | ok result =>
      obtain ⟨staged, temporary⟩ := result
      refine ⟨staged, temporary, rfl, ?_⟩
      simp only [made] at replaced
      cases moved : staged.moveFrom temporary path with
      | ok placed =>
          simp only [moved, Prod.mk.injEq, and_true] at replaced
          exact .inl (congrArg Except.ok replaced)
      | error error =>
          simp only [moved] at replaced
          split at replaced
          · rename_i there
            cases aside : staged.moveAside temporary path with
            | mk last outcome =>
                cases outcome with
                | error cause =>
                    rw [aside] at replaced
                    cases replaced
                | ok _ =>
                    rw [aside] at replaced
                    cases replaced
                    exact .inr ⟨error, rfl, there, rfl⟩
          · simp at replaced

theorem sets_of_replace (grounded : before.Grounded) (clear : before.isFolder path = false)
    (replaced : before.replace path content = (after, .ok ())) :
    ∃ place, before.filePlace? path = some place ∧ before.Sets after place (.file content) := by
  obtain ⟨staged, temporary, made, outcome⟩ := exists_of_replace replaced
  obtain ⟨absent, sets, outer, members, _, _, rfl⟩ := sets_of_stage made
  have keeps : before.Keeps staged := sets.keeps (by simp [absent])
  have back : staged.Keeps before := sets.keeps_before
  have held := kind?_eq_file_iff.mp sets.kind?_self
  have stagedClear := back.isFolder_eq_false clear
  rcases outcome with moved | ⟨error, failed, there, _⟩
  · obtain ⟨place, found, notFolder, rfl⟩ := (moveFrom_eq_ok_iff held).mp moved
    -- Without the temporary file the disk is again what it was at first.
    have cleaned := sets.kind?_erase absent
    have erased : before.Keeps (staged.erase (outer ++ [freshName members])) :=
      ⟨sets.current, fun other folder => (cleaned other).trans folder⟩
    have here := back.filePlace? found
    have put := putFile_sets_of_filePlace? (erased.grounded grounded)
      (erased.filePlace? here) (by rw [cleaned]; exact kind?_of_filePlace? clear here) content
    exact ⟨place, here, put.current.trans erased.current,
      fun other => by rw [put.kind?, cleaned]⟩
  · -- Nothing is moved aside: what is at the path could have been replaced.
    obtain ⟨place, found⟩ := exists_filePlace? (keeps.grounded grounded) there stagedClear
    have possible := (moveFrom_eq_ok_iff held).mpr
      ⟨place, found, kind?_of_filePlace? stagedClear found, rfl⟩
    rw [failed] at possible
    contradiction

/-- All that one disk has more than another one are folders. -/
structure Grows (before after : Disk) : Prop extends before.Keeps after where
  file : ∀ place content,
    after.kind? place = some (.file content) ↔ before.kind? place = some (.file content)

theorem Grows.refl (disk : Disk) : disk.Grows disk := ⟨.refl disk, fun _ _ => Iff.rfl⟩

theorem Grows.trans {later : Disk} (first : before.Grows after) (second : after.Grows later) :
    before.Grows later where
  toKeeps := first.toKeeps.trans second.toKeeps
  file := fun place content => (second.file place content).trans (first.file place content)

theorem Grows.read (grows : before.Grows after) (held : before.read path = .ok content) :
    after.read path = .ok content := by
  obtain ⟨place, found, file⟩ := read_eq_ok_iff.mp held
  exact read_eq_ok_iff.mpr
    ⟨place, grows.toKeeps.filePlace? found, (grows.file place content).mpr file⟩

theorem Sets.grows (sets : before.Sets after place .folder) (absent : before.kind? place = none) :
    before.Grows after where
  toKeeps := sets.keeps fun _ => rfl
  file := by
    intro other content
    rw [sets.kind?]
    split
    · rename_i here
      simp [here, absent]
    · exact Iff.rfl

theorem exists_of_makeFolder (made : before.makeFolder path = .ok after) :
    ∃ outer name asFolder, before.locate path = .ok (.member outer name asFolder) ∧
      before.kind? (outer ++ [name]) = none ∧
      (before.Sets after (outer ++ [name]) .folder ∨ after = before) := by
  unfold makeFolder at made
  cases located : before.locate path with
  | error error => simp [located, bind, Except.bind] at made
  | ok target =>
      simp only [located, bind, Except.bind] at made
      cases target with
      | folder place => contradiction
      | member outer name asFolder =>
          cases found : before.get? (outer ++ [name]) with
          | some entry => simp [found] at made
          | none =>
              have absent := kind?_eq_none_iff.mpr found
              simp only [found] at made
              cases made
              refine ⟨outer, name, asFolder, rfl, absent, ?_⟩
              by_cases inFolder : before.kind? outer = some .folder
              · exact .inl (putFolder_sets inFolder absent)
              · exact .inr (by rw [put, Tree.put_of_not_folder inFolder])

theorem grows_of_makeFolder (made : before.makeFolder path = .ok after) : before.Grows after := by
  obtain ⟨_, _, _, _, absent, sets | rfl⟩ := exists_of_makeFolder made
  · exact sets.grows absent
  · exact .refl _

theorem grows_of_makeOutermost {paths missing left : List Path}
    (made : before.makeOutermost paths missing = .ok (after, left)) : before.Grows after := by
  induction paths generalizing missing with
  | nil =>
      cases made
      exact .refl _
  | cons path rest ih =>
      unfold makeOutermost at made
      split at made
      · rename_i next one
        cases made
        exact grows_of_makeFolder one
      · exact ih made
      · split at made
        · cases made
          exact .refl _
        · contradiction

theorem grows_makeEach (disk : Disk) (paths : List Path) :
    disk.Grows (disk.makeEach paths).1 := by
  induction paths generalizing disk with
  | nil => exact .refl disk
  | cons path rest ih =>
      unfold makeEach
      cases made : disk.makeFolder path with
      | ok next => exact (grows_of_makeFolder made).trans (ih next)
      | error error =>
          simp only
          split
          · exact ih disk
          · exact .refl disk

theorem grows_makeFolders (disk : Disk) (path : Path) :
    disk.Grows (disk.makeFolders path).1 := by
  unfold makeFolders
  split
  · exact .refl disk
  · cases made : disk.makeOutermost (ancestors path) [] with
    | error error => exact .refl disk
    | ok result => exact (grows_of_makeOutermost made).trans (grows_makeEach result.1 result.2)

end Disk

end GraphPrograms
