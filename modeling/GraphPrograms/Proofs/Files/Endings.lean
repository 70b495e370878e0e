import GraphPrograms.Proofs.Files.Naming

/-!
Paths that end in a slash.

A slash at the end of a path asks for a folder and changes nothing else: the folder of the path and
its backup are those of the path without it (`unslashed`).
-/

namespace GraphPrograms

namespace Path

variable {path other : Path} {name : Text}

/-- A path that names something in a folder, with or without a slash behind it. -/
structure Final (path : Path) (name : Text) : Prop where
  last : path.names.getLast? = some name
  notDot : name ≠ ['.']
  notDots : name ≠ ['.', '.']

theorem Named.final (named : path.Named name) : path.Final name :=
  ⟨named.last, named.notDot, named.notDots⟩

/-- The path with single slashes between its names and none at its end. -/
def unslashed (path : Path) : Path := ofParts path.isAbsolute path.names

theorem isName_of_mem (path : Path) : ∀ name ∈ path.names, name.IsName :=
  fun _ => isName_of_mem_names

@[simp] theorem names_unslashed (path : Path) : path.unslashed.names = path.names :=
  names_ofParts path.isAbsolute path.isName_of_mem

@[simp] theorem isAbsolute_unslashed (path : Path) :
    path.unslashed.isAbsolute = path.isAbsolute :=
  isAbsolute_ofParts path.isAbsolute path.isName_of_mem

@[simp] theorem parts_unslashed (path : Path) : path.unslashed.parts = path.parts := by
  simp only [parts, names_unslashed, isAbsolute_unslashed]

@[simp] theorem parent?_unslashed (path : Path) : path.unslashed.parent? = path.parent? := by
  simp only [parent?, parts_unslashed, isAbsolute_unslashed]

@[simp] theorem stagingFolder_unslashed (disk : Disk) (path : Path) :
    disk.stagingFolder path.unslashed = disk.stagingFolder path := by
  simp only [Disk.stagingFolder, parent?_unslashed]

namespace Final

variable (final : path.Final name)

include final

theorem named_unslashed : path.unslashed.Named name where
  last := by rw [names_unslashed, final.last]
  notDot := final.notDot
  notDots := final.notDots
  unended := by
    obtain ⟨outer, names⟩ := List.getLast?_eq_some_iff.mp final.last
    rw [unslashed, names]
    exact endsWithSlash_ofParts _ _ (isName_of_mem_names (List.mem_of_getLast? final.last))

theorem fileName?_eq : path.fileName? = some name := by
  obtain ⟨outer, parts, _⟩ := final.named_unslashed.exists_parts
  rw [parts_unslashed] at parts
  have notEither : ¬ (name = ['.'] ∨ name = "..".toList) :=
    not_or.mpr ⟨final.notDot, final.notDots⟩
  simp only [fileName?, parts, List.getLast?_concat, if_neg notEither]

theorem backupOf_unslashed : Disk.backupOf path.unslashed = Disk.backupOf path := by
  have named := final.fileName?_eq
  have again := final.named_unslashed.final.fileName?_eq
  simp only [Disk.backupOf, withExtension, named, again, parts_unslashed, isAbsolute_unslashed]

theorem named (unended : path.endsWithSlash = false) : path.Named name :=
  ⟨final.last, final.notDot, final.notDots, unended⟩

theorem stagingFolder_eq (disk : Disk) :
    disk.stagingFolder path = disk.walk (disk.start path) path.names.dropLast := by
  have walked := final.named_unslashed.stagingFolder_eq disk
  rwa [stagingFolder_unslashed, names_unslashed,
    Disk.start_eq path.isAbsolute_unslashed] at walked

theorem locate (disk : Disk) : disk.locate path =
    (disk.stagingFolder path).map fun folder => .member folder name path.endsWithSlash := by
  have notEither : ¬ (name = ['.'] ∨ name = ['.', '.']) := not_or.mpr ⟨final.notDot, final.notDots⟩
  simp only [Disk.locate, final.last, final.stagingFolder_eq, if_neg notEither]
  cases disk.walk (disk.start path) path.names.dropLast <;> rfl

theorem locate_backupOf (disk : Disk) : disk.locate (Disk.backupOf path) =
    (disk.stagingFolder path).map fun folder => .member folder (backupName name) false := by
  rw [← final.backupOf_unslashed, final.named_unslashed.locate_backupOf, stagingFolder_unslashed]

theorem stagingFolder_unique {disk next : Disk} {outer again : Place}
    (current : next.current = disk.current) (walked : disk.stagingFolder path = .ok outer)
    (rewalked : next.stagingFolder path = .ok again) : again = outer := by
  rw [← stagingFolder_unslashed] at walked rewalked
  exact final.named_unslashed.stagingFolder_unique disk current walked rewalked

end Final

/-- A path leads to a member of a folder exactly if it ends in a name. -/
theorem final_of_locate {disk : Disk} {outer : Place} {asFolder : Bool}
    (located : disk.locate path = .ok (.member outer name asFolder)) : path.Final name := by
  unfold Disk.locate at located
  split at located
  · split at located <;> cases located
  · rename_i last ends
    cases walked : disk.walk (disk.start path) path.names.dropLast with
    | error error => simp [walked, bind, Except.bind] at located
    | ok folder =>
        simp only [walked, bind, Except.bind] at located
        split at located
        · cases entered : disk.enter folder last with
          | error error => simp [entered] at located
          | ok next => simp [entered, pure, Except.pure] at located
        · rename_i notEither
          cases located
          exact ⟨ends, (not_or.mp notEither).1, (not_or.mp notEither).2⟩

theorem stagingFolder_of_locate {disk : Disk} {outer : Place} {asFolder : Bool}
    (located : disk.locate path = .ok (.member outer name asFolder)) :
    disk.stagingFolder path = .ok outer ∧ asFolder = path.endsWithSlash := by
  rw [(final_of_locate located).locate] at located
  cases walked : disk.stagingFolder path with
  | error error => simp [walked, Except.map] at located
  | ok folder =>
      simp only [walked, Except.map, Except.ok.injEq, Disk.Target.member.injEq, true_and] at located
      exact ⟨by rw [located.1], located.2.symm⟩

namespace Final

variable {before after : Disk} {outer : Place} (final : path.Final name)

include final

theorem locate_of_walked (walked : before.stagingFolder path = .ok outer) :
    before.locate path = .ok (.member outer name path.endsWithSlash) := by
  rw [final.locate, walked, Except.map]

theorem locate_backupOf_of_walked (walked : before.stagingFolder path = .ok outer) :
    before.locate (Disk.backupOf path) = .ok (.member outer (backupName name) false) := by
  rw [final.locate_backupOf, walked, Except.map]

theorem stagingFolder_of_keeps (keeps : before.Keeps after)
    (walked : before.stagingFolder path = .ok outer) : after.stagingFolder path = .ok outer :=
  (stagingFolder_of_locate (keeps.locate (final.locate_of_walked walked))).1

end Final

end Path

namespace Disk

variable {disk : Disk} {path : Path} {place next : Place} {name : Text} {names : List Text}

theorem walk_concat : disk.walk place (names ++ [name]) = .ok next ↔
    ∃ outer, disk.walk place names = .ok outer ∧ disk.enter outer name = .ok next := by
  induction names generalizing place with
  | nil =>
      rw [List.nil_append, walk_cons_eq_ok_iff]
      simp [walk]
  | cons first rest ih =>
      simp only [List.cons_append, walk_cons_eq_ok_iff, ih]
      grind

theorem walk_of_locate (located : disk.locate path = .ok (.folder place)) :
    disk.walk (disk.start path) path.names = .ok place := by
  unfold locate at located
  split at located
  · rename_i nothing
    split at located
    · rename_i absolute
      cases located
      rw [List.getLast?_eq_none_iff.mp nothing, walk, start, if_pos absolute]
    · contradiction
  · rename_i last ends
    obtain ⟨front, names⟩ := List.getLast?_eq_some_iff.mp ends
    rw [names, List.dropLast_concat] at located
    rw [names]
    cases walked : disk.walk (disk.start path) front with
    | error error => simp [walked, bind, Except.bind] at located
    | ok folder =>
        simp only [walked, bind, Except.bind] at located
        split at located
        · refine walk_concat.mpr ⟨folder, walked, ?_⟩
          cases entered : disk.enter folder last with
          | error error => simp [entered] at located
          | ok next =>
              simp only [entered, pure, Except.pure, Except.ok.injEq, Target.folder.injEq]
                at located
              rw [located]
        · cases located

/-- A path that ends in a dot leads to the folder that it names before the dot. -/
theorem exists_of_dotted (located : disk.locate path = .ok (.folder place))
    (called : path.fileName? = some name) :
    ∃ outer, disk.stagingFolder path = .ok outer ∧ place = outer ++ [name] ∧
      disk.kind? (outer ++ [name]) = some .folder := by
  have proper : ∀ part ∈ path.parts, part.IsName := fun part inside =>
    Path.isName_of_mem_names (path.parts_subset inside)
  unfold Path.fileName? at called
  split at called
  · rename_i last ends
    split at called
    · contradiction
    · rename_i notEither
      cases called
      obtain ⟨front, parts⟩ := List.getLast?_eq_some_iff.mp ends
      have walked := walk_of_locate located
      rw [walk_congr_dots path.filter_parts.symm, parts] at walked
      obtain ⟨outer, inner, entered⟩ := walk_concat.mp walked
      rw [parts] at proper
      have frontProper := (List.forall_mem_append.mp proper).1
      have parent : path.parent? = some (.ofParts path.isAbsolute front) := by
        simp [Path.parent?, parts]
      have folder : disk.stagingFolder path = .ok outer := by
        simp only [stagingFolder, parent, Path.names_ofParts _ frontProper,
          start_eq (Path.isAbsolute_ofParts path.isAbsolute frontProper) disk, inner]
      rcases enter_eq_ok_iff.mp entered with ⟨dot, _⟩ | ⟨dots, _⟩ | ⟨_, _, there, rfl⟩
      · exact absurd (.inl dot) notEither
      · exact absurd (.inr dots) notEither
      · exact ⟨outer, folder, rfl, there⟩
  · contradiction

end Disk

end GraphPrograms
