import GraphPrograms.Files.Change
import GraphPrograms.Proofs.Files.Endings
import GraphPrograms.Proofs.Files.Writing

/-!
Where a path leads, said of its names alone.

A disk has no links, so a path leads to the place that its names spell, if it leads anywhere
(`destination_eq`).  When a folder is made with all that is missing around it, folders come only
where the names of its path lead through (`mem_through_of_makeFolders`); with no way back among the
names those are the folder and the ones around it (`prefix_of_mem_through`).
-/

namespace GraphPrograms

namespace Disk

variable {disk before after : Disk} {path ancestor : Path} {place next outer : Place} {name : Text}
  {names : List Text} {target : Target}

def step (place : Place) (name : Text) : Place :=
  if name = ['.'] then place
  else if name = ['.', '.'] then place.dropLast
  else place ++ [name]

/-- The place that names lead to from a place on. -/
def lead (place : Place) (names : List Text) : Place := names.foldl step place

theorem mem_through_iff : next ∈ through place names ↔
    ∃ front, front ≠ [] ∧ front <+: names ∧ lead place front = next := by
  induction names generalizing place with
  | nil =>
      refine iff_of_false List.not_mem_nil ?_
      rintro ⟨front, some, short, _⟩
      exact some (List.prefix_nil.mp short)
  | cons name rest ih =>
      change next ∈ step place name :: through (step place name) rest ↔ _
      rw [List.mem_cons, ih]
      constructor
      · rintro (rfl | ⟨front, _, short, led⟩)
        · exact ⟨[name], by simp, by simp, rfl⟩
        · exact ⟨name :: front, by simp, (List.prefix_cons_inj name).mpr short, led⟩
      · rintro ⟨front, some, short, led⟩
        obtain ⟨first, later, rfl⟩ := List.exists_cons_of_ne_nil some
        obtain ⟨rfl, within⟩ := List.cons_prefix_cons.mp short
        by_cases alone : later = []
        · exact .inl (by rw [← led, alone]; rfl)
        · exact .inr ⟨later, alone, within, led⟩

theorem lead_append (place : Place) (front rest : List Text) :
    lead place (front ++ rest) = lead (lead place front) rest :=
  List.foldl_append

theorem lead_filter_dots (place : Place) (names : List Text) :
    lead place (names.filter (· != ['.'])) = lead place names := by
  induction names generalizing place with
  | nil => rfl
  | cons name rest ih =>
      by_cases dot : name = ['.']
      · subst dot
        exact ih place
      · rw [List.filter_cons_of_pos (by simpa using dot)]
        exact ih (step place name)

theorem eq_lead_of_walk (walked : disk.walk place names = .ok next) : next = lead place names := by
  induction names generalizing place with
  | nil =>
      cases walked
      rfl
  | cons name rest ih =>
      obtain ⟨inner, entered, later⟩ := walk_cons_eq_ok_iff.mp walked
      have here : inner = step place name := eq_of_enter entered
      rw [ih later, here]
      rfl

theorem destination_eq (located : disk.locate path = .ok target) :
    target.destination = lead (disk.start path) path.names := by
  cases target with
  | folder place => exact eq_lead_of_walk (walk_of_locate located)
  | member outer name asFolder =>
      have final := Path.final_of_locate located
      have walked := (Path.stagingFolder_of_locate located).1
      obtain ⟨front, names⟩ := List.getLast?_eq_some_iff.mp final.last
      rw [final.stagingFolder_eq, names, List.dropLast_concat] at walked
      have last : step outer name = outer ++ [name] := by
        rw [step, if_neg final.notDot, if_neg final.notDots]
      rw [names, lead_append, ← eq_lead_of_walk walked]
      exact last.symm

/-- The places where paths name something. -/
def Names (disk : Disk) (paths : List Path) (place : Place) : Prop :=
  ∃ path ∈ paths, ∃ name, path.Final name ∧ place = lead (disk.start path) path.names

theorem Names.of_current {paths : List Path} (current : after.current = before.current)
    (names : after.Names paths place) : before.Names paths place := by
  obtain ⟨path, member, name, final, rfl⟩ := names
  exact ⟨path, member, name, final, by rw [start, start, current]⟩

theorem Names.of_subset {paths others : List Path} (subset : paths ⊆ others)
    (names : disk.Names paths place) : disk.Names others place := by
  obtain ⟨path, member, rest⟩ := names
  exact ⟨path, subset member, rest⟩

theorem names_of_makeFolder {paths : List Path} (member : path ∈ paths)
    (made : before.makeFolder path = .ok after)
    (changed : after.kind? place ≠ before.kind? place) : before.Names paths place := by
  obtain ⟨outer, name, asFolder, located, _, outcome⟩ := exists_of_makeFolder made
  rcases outcome with sets | rfl
  · have here : place = outer ++ [name] := by
      by_contra elsewhere
      exact changed (sets.kind?_of_ne elsewhere)
    exact ⟨path, member, name, Path.final_of_locate located,
      here.trans (destination_eq located)⟩
  · exact absurd rfl changed

theorem names_of_makeOutermost {paths missing left : List Path}
    (made : before.makeOutermost paths missing = .ok (after, left)) :
    left ⊆ paths ++ missing ∧
      ∀ place, after.kind? place ≠ before.kind? place → before.Names paths place := by
  induction paths generalizing missing with
  | nil =>
      cases made
      exact ⟨List.Subset.refl _, fun _ changed => absurd rfl changed⟩
  | cons path rest ih =>
      unfold makeOutermost at made
      split at made
      · rename_i next one
        cases made
        exact ⟨fun _ => List.mem_append_right _,
          fun _ => names_of_makeFolder List.mem_cons_self one⟩
      · obtain ⟨within, names⟩ := ih made
        refine ⟨fun other member => ?_, fun place changed =>
          (names place changed).of_subset (List.subset_cons_self path rest)⟩
        rcases List.mem_append.mp (within member) with later | missed
        · exact List.mem_append_left _ (List.mem_cons_of_mem path later)
        · rcases List.mem_cons.mp missed with rfl | known
          · exact List.mem_append_left _ List.mem_cons_self
          · exact List.mem_append_right _ known
      · split at made
        · cases made
          exact ⟨fun _ => List.mem_append_right _, fun _ changed => absurd rfl changed⟩
        · contradiction

theorem names_of_makeEach {paths : List Path}
    (changed : (disk.makeEach paths).1.kind? place ≠ disk.kind? place) :
    disk.Names paths place := by
  induction paths generalizing disk with
  | nil => exact absurd rfl changed
  | cons path rest ih =>
      have wider := List.subset_cons_self path rest
      unfold makeEach at changed
      cases made : disk.makeFolder path with
      | ok next =>
          simp only [made] at changed
          by_cases here : next.kind? place = disk.kind? place
          · rw [← here] at changed
            exact ((ih changed).of_current (grows_of_makeFolder made).current).of_subset wider
          · exact names_of_makeFolder List.mem_cons_self made here
      | error error =>
          simp only [made] at changed
          split at changed
          · exact (ih changed).of_subset wider
          · exact absurd rfl changed

/-- The names of a path around another one begin that path's names, but for dots. -/
theorem exists_prefix_of_mem_ancestors (member : ancestor ∈ ancestors path) :
    ∃ front, front <+: path.names ∧
      ancestor.names.filter (· != ['.']) = front.filter (· != ['.']) ∧
      ancestor.isAbsolute = path.isAbsolute := by
  rcases List.mem_cons.mp member with rfl | around
  · exact ⟨_, List.prefix_refl _, rfl, rfl⟩
  · obtain ⟨count, _, taken⟩ := List.mem_filterMap.mp around
    split at taken
    · contradiction
    · obtain rfl := Option.some.inj taken
      have proper : ∀ part ∈ path.parts.take count, part.IsName := fun part inside =>
        Path.isName_of_mem_names (path.parts_subset (List.take_subset _ _ inside))
      have short := (List.take_prefix count path.parts).filter (· != ['.'])
      rw [Path.filter_parts] at short
      obtain ⟨front, within, same⟩ := List.prefix_filter_iff.mp short
      exact ⟨front, within, by rw [Path.names_ofParts _ proper, same],
        Path.isAbsolute_ofParts _ proper⟩

/-- A path and those around it name places that the path leads through. -/
theorem mem_through_of_names (names : disk.Names (ancestors path) place) :
    place ∈ through (disk.start path) path.names := by
  obtain ⟨ancestor, member, name, final, rfl⟩ := names
  obtain ⟨front, within, same, absolute⟩ := exists_prefix_of_mem_ancestors member
  refine mem_through_iff.mpr ⟨front, ?_, within, ?_⟩
  · rintro rfl
    have kept : name ∈ ancestor.names.filter (· != ['.']) :=
      List.mem_filter.mpr ⟨List.mem_of_getLast? final.last, by simpa using final.notDot⟩
    rw [same] at kept
    contradiction
  · rw [← lead_filter_dots, ← same, lead_filter_dots, start_eq absolute]

theorem mem_through_of_makeFolders
    (changed : (disk.makeFolders path).1.kind? place ≠ disk.kind? place) :
    place ∈ through (disk.start path) path.names := by
  refine mem_through_of_names ?_
  unfold makeFolders at changed
  split at changed
  · exact absurd rfl changed
  · cases made : disk.makeOutermost (ancestors path) [] with
    | error error => simp [made] at changed
    | ok result =>
        obtain ⟨within, outermost⟩ := names_of_makeOutermost made
        simp only [made] at changed
        rw [List.append_nil] at within
        by_cases first : result.1.kind? place = disk.kind? place
        · rw [← first] at changed
          exact ((names_of_makeEach changed).of_current
            (grows_of_makeOutermost made).current).of_subset within
        · exact outermost place first

theorem Grows.kind?_of_changed (grows : before.Grows after)
    (changed : after.kind? place ≠ before.kind? place) :
    before.kind? place = none ∧ after.kind? place = some .folder := by
  have notFolder : before.kind? place ≠ some .folder := fun folder =>
    changed ((grows.folder place folder).trans folder.symm)
  have notFile : ∀ content, before.kind? place ≠ some (.file content) := fun content file =>
    changed (((grows.file place content).mpr file).trans file.symm)
  have empty : before.kind? place = none := by
    cases there : before.kind? place with
    | none => rfl
    | some kind => cases kind <;> simp_all
  refine ⟨empty, ?_⟩
  cases there : after.kind? place with
  | none => exact absurd (there.trans empty.symm) changed
  | some kind =>
      cases kind with
      | folder => rfl
      | file content => exact absurd ((grows.file place content).mp there) (notFile content)

theorem kind?_makeFolders_cases (disk : Disk) (path : Path) (place : Place) :
    (disk.makeFolders path).1.kind? place = disk.kind? place ∨
      place ∈ through (disk.start path) path.names ∧ disk.kind? place = none ∧
        (disk.makeFolders path).1.kind? place = some .folder :=
  or_iff_not_imp_left.mpr fun changed =>
    ⟨mem_through_of_makeFolders changed, (grows_makeFolders disk path).kind?_of_changed changed⟩

end Disk

end GraphPrograms
