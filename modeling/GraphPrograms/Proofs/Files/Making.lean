import GraphPrograms.Proofs.Files.Leading

/-!
Folders that cannot be made.

Making a folder with all that is missing around it fails only if its path leads to no folder
afterwards (`kind?_of_makeFolders_error`).  So nothing can be named in it, neither before nor after
(`entryAt?_join_of_makeFolders_error`).
-/

namespace GraphPrograms.Disk

variable {disk before after : Disk} {path ancestor : Path} {place next : Place} {name : Text}
  {names : List Text}

theorem exists_walk_of_prefix {front : List Text} (short : front <+: names)
    (walked : disk.walk place names = .ok next) : ∃ inner, disk.walk place front = .ok inner := by
  induction front generalizing place names with
  | nil => exact ⟨place, rfl⟩
  | cons name rest ih =>
      obtain ⟨later, rfl⟩ := short
      obtain ⟨inner, entered, onward⟩ := walk_cons_eq_ok_iff.mp walked
      obtain ⟨led, reached⟩ := ih (List.prefix_append rest later) onward
      exact ⟨led, walk_cons_eq_ok_iff.mpr ⟨inner, entered, reached⟩⟩

/-- Names that lead to no folder lead there on every disk: they are dots. -/
theorem walk_of_not_folder (walked : before.walk place names = .ok next)
    (bare : before.kind? next ≠ some .folder) : after.walk place names = .ok next := by
  induction names generalizing place with
  | nil => exact walked
  | cons name rest ih =>
      obtain ⟨inner, entered, later⟩ := walk_cons_eq_ok_iff.mp walked
      have again : after.enter place name = .ok inner :=
        enter_of_enter (fun folder => absurd (kind?_of_walk folder later) bare) entered
      exact walk_cons_eq_ok_iff.mpr ⟨inner, again, ih later⟩

theorem exists_walk_of_mem_ancestors (member : ancestor ∈ ancestors path)
    (walked : disk.walk (disk.start path) path.names = .ok next) :
    ∃ inner, disk.walk (disk.start ancestor) ancestor.names = .ok inner := by
  obtain ⟨front, short, same, absolute⟩ := exists_prefix_of_mem_ancestors member
  obtain ⟨inner, reached⟩ := exists_walk_of_prefix short walked
  exact ⟨inner, by rw [start_eq absolute, walk_congr_dots same, reached]⟩

theorem isAbsolute_of_names_eq_nil (visible : path.text ≠ []) (none : path.names = []) :
    path.isAbsolute = true := by
  have empty : ∀ piece ∈ path.text.splitOn '/', piece = [] := fun piece inside => by
    simpa using List.filter_eq_nil_iff.mp none piece inside
  have whole : ['/'].intercalate (path.text.splitOn '/') = path.text := List.intercalate_splitOn '/'
  rcases pieces : path.text.splitOn '/' with _ | ⟨first, _ | ⟨second, rest⟩⟩
  · exact absurd pieces (List.splitOn_ne_nil '/' _)
  · rw [pieces] at whole empty
    rw [empty first (by simp)] at whole
    exact absurd whole.symm visible
  · rw [pieces] at whole empty
    rw [Path.isAbsolute, ← whole, empty first (by simp)]
    rfl

theorem visible_of_mem_ancestors (visible : path.text ≠ []) (member : ancestor ∈ ancestors path) :
    ancestor.text ≠ [] := by
  rcases List.mem_cons.mp member with rfl | around
  · exact visible
  · obtain ⟨count, inside, taken⟩ := List.mem_filterMap.mp around
    split at taken
    · contradiction
    · rename_i some
      obtain rfl := Option.some.inj taken
      intro empty
      have proper : ∀ part ∈ path.parts.take count, part.IsName := fun part inside =>
        Path.isName_of_mem_names (path.parts_subset (List.take_subset _ _ inside))
      have names := Path.names_ofParts path.isAbsolute proper
      have none : (Path.ofParts path.isAbsolute (path.parts.take count)).names = [] := by
        rw [Path.names, empty]
        rfl
      rw [none] at names
      have short := List.mem_range.mp (List.mem_reverse.mp inside)
      have lengths := congrArg List.length names
      rw [List.length_take, List.length_nil] at lengths
      omega

/-- A path that leads to something cannot be made. -/
theorem makeFolder_of_walk (visible : path.text ≠ [])
    (walked : disk.walk (disk.start path) path.names = .ok next) :
    disk.makeFolder path = .error .alreadyThere ∧
      (disk.isFolder path = true ↔ disk.kind? next = some .folder) := by
  rcases List.eq_nil_or_concat path.names with none | ⟨front, last, names⟩
  · have absolute := isAbsolute_of_names_eq_nil visible none
    have located : disk.locate path = .ok (.folder []) := by simp [locate, none, absolute]
    rw [none, start, if_pos absolute] at walked
    cases walked
    exact ⟨by simp only [makeFolder, located, bind, Except.bind],
      by simp [isFolder_iff, located, Target.destination]⟩
  · rw [List.concat_eq_append] at names
    rw [names] at walked
    obtain ⟨outer, inner, entered⟩ := walk_concat.mp walked
    by_cases dots : last = ['.'] ∨ last = ['.', '.']
    · have located : disk.locate path = .ok (.folder next) := by
        simp only [locate, names, List.getLast?_concat, List.dropLast_concat, inner, bind,
          Except.bind, if_pos dots, entered, pure, Except.pure]
      exact ⟨by simp only [makeFolder, located, bind, Except.bind],
        by simp [isFolder_iff, located, Target.destination]⟩
    · have located : disk.locate path = .ok (.member outer last path.endsWithSlash) := by
        simp only [locate, names, List.getLast?_concat, List.dropLast_concat, inner, bind,
          Except.bind, if_neg dots, pure, Except.pure]
      rcases enter_eq_ok_iff.mp entered with ⟨dot, _⟩ | ⟨dot, _⟩ | ⟨_, _, folder, rfl⟩
      · exact absurd (.inl dot) dots
      · exact absurd (.inr dot) dots
      · obtain ⟨members, held⟩ := kind?_eq_folder_iff.mp folder
        exact ⟨by simp only [makeFolder, located, bind, Except.bind, held],
          by simp [isFolder_iff, located, Target.destination]⟩

theorem notFound_of_makeOutermost {paths missing left : List Path}
    (known : ∀ path ∈ missing, before.makeFolder path = .error .notFound)
    (made : before.makeOutermost paths missing = .ok (after, left)) :
    ∀ path ∈ left, before.makeFolder path = .error .notFound := by
  induction paths generalizing missing with
  | nil =>
      cases made
      exact known
  | cons path rest ih =>
      unfold makeOutermost at made
      split at made
      · cases made
        exact known
      · rename_i lost
        exact ih (List.forall_mem_cons.mpr ⟨lost, known⟩) made
      · split at made
        · cases made
          exact known
        · contradiction

theorem exists_of_makeEach_error {paths : List Path} {error : FileError}
    (failed : before.makeEach paths = (after, .error error)) :
    ∃ path ∈ paths, after.makeFolder path = .error error ∧
      ¬ (error = .alreadyThere ∧ after.isFolder path = true) := by
  induction paths generalizing before with
  | nil => cases failed
  | cons path rest ih =>
      have later : ∀ {next : Disk}, next.makeEach rest = (after, .error error) →
          ∃ other ∈ path :: rest, after.makeFolder other = .error error ∧
            ¬ (error = .alreadyThere ∧ after.isFolder other = true) := fun failed =>
        let ⟨other, member, stopped⟩ := ih failed
        ⟨other, List.mem_cons_of_mem path member, stopped⟩
      unfold makeEach at failed
      split at failed
      · exact later failed
      · rename_i cause stopped
        split at failed
        · exact later failed
        · rename_i notThere
          cases failed
          exact ⟨path, List.mem_cons_self, stopped, notThere⟩

/-- A folder that cannot be made is none afterwards, and its path does not lead to one. -/
theorem kind?_of_makeFolders_error {error : FileError}
    (failed : before.makeFolders path = (after, .error error))
    (walked : after.walk (after.start path) path.names = .ok next) :
    after.kind? next ≠ some .folder := by
  intro folder
  unfold makeFolders at failed
  split at failed
  · cases failed
  · rename_i text
    have visible : path.text ≠ [] := by simpa using text
    split at failed
    · rename_i made missing outermost
      have current : after.current = before.current := by
        have grows := (grows_of_makeOutermost outermost).trans (grows_makeEach made missing)
        rw [failed] at grows
        exact grows.current
      obtain ⟨ancestor, member, stopped, notThere⟩ := exists_of_makeEach_error failed
      have lost := notFound_of_makeOutermost (by simp) outermost ancestor member
      have within := (names_of_makeOutermost outermost).1 member
      rw [List.append_nil] at within
      have itsVisible := visible_of_mem_ancestors visible within
      obtain ⟨inner, reached⟩ := exists_walk_of_mem_ancestors within walked
      obtain ⟨there, isFolder⟩ := makeFolder_of_walk itsVisible reached
      cases stopped.symm.trans there
      have bare : after.kind? inner ≠ some .folder := fun folder =>
        notThere ⟨rfl, isFolder.mpr folder⟩
      -- What leads to no folder led there before, so it was not missing.
      have start : after.start ancestor = before.start ancestor := by
        rw [Disk.start, Disk.start, current]
      rw [start] at reached
      have already := (makeFolder_of_walk itsVisible (walk_of_not_folder reached bare)).1
      cases lost.symm.trans already
    · rename_i cause outermost
      cases failed
      obtain ⟨there, isFolder⟩ := makeFolder_of_walk visible walked
      simp [ancestors, makeOutermost, there, isFolder.mpr folder] at outermost

/-- What is named in a folder that cannot be made is not there, neither before nor after. -/
theorem entryAt?_join_of_makeFolders_error {error : FileError} (proper : name.IsName)
    (notDot : name ≠ ['.']) (notDots : name ≠ ['.', '.'])
    (failed : before.makeFolders path = (after, .error error)) :
    before.entryAt? (path.join name) = none ∧ after.entryAt? (path.join name) = none := by
  have keeps : before.Keeps after := by
    have grows := grows_makeFolders before path
    rw [failed] at grows
    exact grows.toKeeps
  have named : (path.join name).Named name := Path.named_join proper notDot notDots
  have lost : ∀ {disk : Disk}, (∀ inner, disk.walk (disk.start path) path.names = .ok inner →
      disk.kind? inner ≠ some .folder) → disk.entryAt? (path.join name) = none := by
    intro disk bare
    rw [← stagingFolder_join proper notDot notDots] at bare
    cases walked : disk.stagingFolder (path.join name) with
    | error error => simp only [entryAt?, named.locate, walked, Except.map]
    | ok inner =>
        have absent := kind?_below (bare inner walked) (List.cons_ne_nil name [])
        simp only [entryAt?, named.locate, walked, Except.map, kind?_eq_none_iff.mp absent,
          Option.filter_none]
  have start : after.start path = before.start path := by
    rw [Disk.start, Disk.start, keeps.current]
  refine ⟨lost fun inner walked folder => ?_, lost fun inner walked =>
    kind?_of_makeFolders_error failed walked⟩
  have again : after.walk (after.start path) path.names = .ok inner := by
    rw [start, keeps.walk walked]
  exact kind?_of_makeFolders_error failed again (keeps.folder inner folder)

end GraphPrograms.Disk
