import GraphPrograms.Proofs.Files.Kinds

/-!
Where paths lead while a disk changes.

A path is resolved through folders alone.  So it leads to the same place on every disk that keeps
the folders (`Keeps.locate`), whatever is done to files, and the place it leads to is in a folder
that is there (`kind?_of_locate`).
-/

namespace GraphPrograms.Disk

variable {disk before after : Disk} {path : Path} {place next : Place} {name : Text}
  {target : Target} {kind : Kind}

/-- A disk whose current folder is there. -/
def Grounded (disk : Disk) : Prop := disk.kind? disk.current = some .folder

/-- All that one disk has for a folder is a folder of another one, too. -/
structure Keeps (before after : Disk) : Prop where
  current : after.current = before.current
  folder : ∀ place, before.kind? place = some .folder → after.kind? place = some .folder

theorem Keeps.refl (disk : Disk) : disk.Keeps disk := ⟨rfl, fun _ folder => folder⟩

theorem Keeps.trans {later : Disk} (first : before.Keeps after) (second : after.Keeps later) :
    before.Keeps later where
  current := second.current.trans first.current
  folder := fun place folder => second.folder place (first.folder place folder)

theorem Keeps.grounded (keeps : before.Keeps after) (grounded : before.Grounded) :
    after.Grounded := by
  rw [Grounded, keeps.current]
  exact keeps.folder _ grounded

theorem Sets.keeps (sets : before.Sets after place kind)
    (same : before.kind? place = some .folder → kind = .folder) : before.Keeps after where
  current := sets.current
  folder := by
    intro other folder
    rw [sets.kind?]
    split
    · rename_i here
      rw [same (here ▸ folder)]
    · exact folder

theorem Sets.keeps_before {content : ByteArray} (sets : before.Sets after place (.file content)) :
    after.Keeps before where
  current := sets.current.symm
  folder := by
    intro other folder
    rw [sets.kind?] at folder
    split at folder
    · simp at folder
    · exact folder

theorem kind?_dropLast (folder : disk.kind? place = some .folder) :
    disk.kind? place.dropLast = some .folder := by
  rcases List.eq_nil_or_concat place with rfl | ⟨outer, last, rfl⟩
  · exact folder
  · rw [List.concat_eq_append] at folder ⊢
    rw [List.dropLast_concat]
    refine Tree.kind?_of_append (List.cons_ne_nil last []) fun absent => ?_
    rw [kind?, absent] at folder
    contradiction

theorem enter_eq_ok_iff : disk.enter place name = .ok next ↔
    name = ['.'] ∧ next = place ∨ name = ['.', '.'] ∧ next = place.dropLast ∨
      name ≠ ['.'] ∧ name ≠ ['.', '.'] ∧ disk.kind? (place ++ [name]) = some .folder ∧
        next = place ++ [name] := by
  unfold enter
  by_cases dot : name = ['.']
  · simp [dot, eq_comm]
  · by_cases dots : name = ['.', '.']
    · simp [dots, eq_comm]
    · simp only [dot, dots, if_false, false_and, false_or, not_false_eq_true, ne_eq, true_and]
      rw [kind?_eq_folder_iff]
      cases disk.get? (place ++ [name]) with
      | none => simp
      | some entry => cases entry <;> simp [eq_comm]

/-- Where a name leads it leads on every disk that has the folder there. -/
theorem enter_of_enter (folder : before.kind? next = some .folder → after.kind? next = some .folder)
    (entered : before.enter place name = .ok next) : after.enter place name = .ok next := by
  refine enter_eq_ok_iff.mpr ((enter_eq_ok_iff.mp entered).imp_right (Or.imp_right ?_))
  rintro ⟨notDot, notDots, there, rfl⟩
  exact ⟨notDot, notDots, folder there, rfl⟩

theorem walk_cons_eq_ok_iff {names : List Text} : disk.walk place (name :: names) = .ok next ↔
    ∃ inner, disk.enter place name = .ok inner ∧ disk.walk inner names = .ok next := by
  cases entered : disk.enter place name <;> simp [walk, entered, bind, Except.bind]

theorem kind?_of_enter (folder : disk.kind? place = some .folder)
    (entered : disk.enter place name = .ok next) : disk.kind? next = some .folder := by
  rcases enter_eq_ok_iff.mp entered with ⟨_, rfl⟩ | ⟨_, rfl⟩ | ⟨_, _, inner, rfl⟩
  · exact folder
  · exact kind?_dropLast folder
  · exact inner

theorem kind?_of_walk {names : List Text} (folder : disk.kind? place = some .folder)
    (walked : disk.walk place names = .ok next) : disk.kind? next = some .folder := by
  induction names generalizing place with
  | nil =>
      cases walked
      exact folder
  | cons name rest ih =>
      obtain ⟨inner, entered, later⟩ := walk_cons_eq_ok_iff.mp walked
      exact ih (kind?_of_enter folder entered) later

theorem kind?_start (grounded : disk.Grounded) (path : Path) :
    disk.kind? (disk.start path) = some .folder := by
  unfold start
  split
  · by_cases root : disk.current = []
    · exact root ▸ grounded
    · have there : disk.root.kind? ([] ++ disk.current) ≠ none := by
        intro absent
        rw [List.nil_append] at absent
        rw [Grounded, kind?, absent] at grounded
        contradiction
      exact Tree.kind?_of_append root there
  · exact grounded

namespace Target

/-- The folder that is led to, or in which something is named. -/
def holder : Target → Place
  | .folder place => place
  | .member outer _ _ => outer

/-- The place that is led to. -/
def destination : Target → Place
  | .folder place => place
  | .member outer name _ => outer ++ [name]

end Target

theorem kind?_of_locate (grounded : disk.Grounded) (located : disk.locate path = .ok target) :
    disk.kind? target.holder = some .folder := by
  unfold locate at located
  split at located
  · split at located
    · cases located
      exact kind?_start grounded ⟨['/']⟩
    · contradiction
  · rename_i last _
    cases walked : disk.walk (disk.start path) path.names.dropLast with
    | error error => simp [walked, bind, Except.bind] at located
    | ok folder =>
        have inside := kind?_of_walk (kind?_start grounded path) walked
        simp only [walked, bind, Except.bind] at located
        split at located
        · cases entered : disk.enter folder last with
          | error error => simp [entered] at located
          | ok inner =>
              simp only [entered, pure, Except.pure, Except.ok.injEq] at located
              subst located
              exact kind?_of_enter inside entered
        · cases located
          exact inside

theorem Keeps.enter (keeps : before.Keeps after) (entered : before.enter place name = .ok next) :
    after.enter place name = .ok next :=
  enter_of_enter (keeps.folder next) entered

theorem Keeps.walk {names : List Text} (keeps : before.Keeps after)
    (walked : before.walk place names = .ok next) : after.walk place names = .ok next := by
  induction names generalizing place with
  | nil => exact walked
  | cons name rest ih =>
      obtain ⟨inner, entered, later⟩ := walk_cons_eq_ok_iff.mp walked
      exact walk_cons_eq_ok_iff.mpr ⟨inner, keeps.enter entered, ih later⟩

theorem Keeps.locate (keeps : before.Keeps after) (located : before.locate path = .ok target) :
    after.locate path = .ok target := by
  have start : after.start path = before.start path := by rw [start, start, keeps.current]
  unfold Disk.locate at located ⊢
  split at located
  · exact located
  · rename_i last _
    cases walked : before.walk (before.start path) path.names.dropLast with
    | error error => simp [walked, bind, Except.bind] at located
    | ok folder =>
        simp only [walked, bind, Except.bind] at located
        simp only [start, keeps.walk walked, bind, Except.bind]
        split at located
        · rename_i dots
          rw [if_pos dots]
          cases entered : before.enter folder last with
          | error error => simp [entered] at located
          | ok inner =>
              rw [entered] at located
              rw [keeps.enter entered]
              exact located
        · rename_i noDots
          rw [if_neg noDots]
          exact located

/-- The place of the file that a path names, be it there or not. -/
def filePlace? (disk : Disk) (path : Path) : Option Place :=
  match disk.locate path with
  | .ok (.member folder name false) => some (folder ++ [name])
  | _ => none

theorem filePlace?_eq_some_iff : disk.filePlace? path = some place ↔
    ∃ folder name, disk.locate path = .ok (.member folder name false) ∧
      place = folder ++ [name] := by
  unfold filePlace?
  split
  · rename_i folder name located
    constructor
    · rintro ⟨⟩
      exact ⟨folder, name, located, rfl⟩
    · rintro ⟨_, _, other, rfl⟩
      cases located.symm.trans other
      rfl
  · rename_i other
    simp only [reduceCtorEq, false_iff]
    rintro ⟨folder, name, located, _⟩
    exact other folder name located

theorem Keeps.filePlace? (keeps : before.Keeps after)
    (found : before.filePlace? path = some place) : after.filePlace? path = some place := by
  obtain ⟨folder, name, located, rfl⟩ := filePlace?_eq_some_iff.mp found
  exact filePlace?_eq_some_iff.mpr ⟨folder, name, keeps.locate located, rfl⟩

theorem read_eq_ok_iff {content : ByteArray} : disk.read path = .ok content ↔
    ∃ place, disk.filePlace? path = some place ∧ disk.kind? place = some (.file content) := by
  simp only [kind?_eq_file_iff]
  unfold read filePlace?
  cases located : disk.locate path with
  | error error => simp [bind, Except.bind]
  | ok target =>
      cases target with
      | folder place => simp [bind, Except.bind]
      | member folder name asFolder =>
          simp only [bind, Except.bind]
          cases asFolder <;> cases found : disk.get? (folder ++ [name]) with
          | none => simp [found]
          | some entry => cases entry <;> simp [found]

theorem read_of_kind?_none (found : disk.filePlace? path = some place)
    (absent : disk.kind? place = none) : disk.read path = .error .notFound := by
  obtain ⟨outer, name, located, rfl⟩ := filePlace?_eq_some_iff.mp found
  rw [kind?_eq_none_iff] at absent
  simp only [read, located, bind, Except.bind, absent]

theorem isFolder_iff : disk.isFolder path = true ↔
    ∃ target, disk.locate path = .ok target ∧
      disk.kind? target.destination = some .folder := by
  simp only [kind?_eq_folder_iff]
  unfold isFolder entryAt?
  cases located : disk.locate path with
  | error error => simp
  | ok target =>
      cases target with
      | folder place =>
          simp only [Except.ok.injEq, exists_eq_left', Target.destination]
          cases disk.get? place with
          | none => simp
          | some entry => cases entry <;> simp [Tree.isFolder]
      | member folder name asFolder =>
          simp only [Except.ok.injEq, exists_eq_left', Target.destination]
          cases disk.get? (folder ++ [name]) with
          | none => simp
          | some entry => cases entry <;> cases asFolder <;> simp [Tree.isFolder]

end GraphPrograms.Disk
