import GraphPrograms.Files.Replace
import GraphPrograms.Proofs.Files.Resolution
import GraphPrograms.Proofs.Text.Characters

/-!
The three paths of a replacement: the target, its folder and its backup.

Folder and backup are spelled anew from the parts of the target's path, where single dots are left
out.  A dot leads nowhere, so on every disk all three lead into one and the same folder
(`Named.locate`, `Named.locate_backupOf`), which no disk can make another one (`walk_unique`).
-/

namespace GraphPrograms

/-- What can stand between two slashes. -/
structure Text.IsName (name : Text) : Prop where
  visible : name ≠ []
  free : '/' ∉ name

namespace Path

variable {path : Path} {name : Text} {parts folders : List Text}

theorem names_append_slash (left right : Text) :
    (Path.mk (left ++ '/' :: right)).names = (Path.mk left).names ++ (Path.mk right).names := by
  unfold names
  rw [List.splitOn_eq_splitOnP, List.splitOn_eq_splitOnP, List.splitOn_eq_splitOnP,
    List.splitOnP_append_cons left right (by rfl), List.filter_append]

theorem names_of_isName (proper : name.IsName) : (Path.mk name).names = [name] := by
  rw [names, List.splitOn_eq_singleton proper.free]
  simp [proper.visible]

theorem isName_of_mem_names (member : name ∈ path.names) : name.IsName where
  visible := by simpa using (List.mem_filter.mp member).2
  free := Text.not_mem_of_mem_splitOn (List.mem_filter.mp member).1

theorem names_intercalate (proper : ∀ part ∈ parts, part.IsName) :
    (Path.mk (['/'].intercalate parts)).names = parts := by
  induction parts with
  | nil => rfl
  | cons part rest ih =>
      obtain ⟨first, others⟩ := List.forall_mem_cons.mp proper
      cases rest with
      | nil => simpa using names_of_isName first
      | cons next later =>
          rw [List.intercalate_cons_cons, List.append_assoc, List.singleton_append,
            names_append_slash, names_of_isName first, ih others]
          rfl

theorem names_ofParts (absolute : Bool) (proper : ∀ part ∈ parts, part.IsName) :
    (ofParts absolute parts).names = parts := by
  cases absolute with
  | false => exact names_intercalate proper
  | true =>
      have slash := names_append_slash [] (['/'].intercalate parts)
      rw [names_intercalate proper] at slash
      exact slash

theorem isAbsolute_ofParts (absolute : Bool) (proper : ∀ part ∈ parts, part.IsName) :
    (ofParts absolute parts).isAbsolute = absolute := by
  cases absolute with
  | true => rfl
  | false =>
      cases parts with
      | nil => rfl
      | cons part rest =>
          obtain ⟨visible, free⟩ := proper part List.mem_cons_self
          obtain ⟨first, later, rfl⟩ := List.exists_cons_of_ne_nil visible
          have starts : first ≠ '/' := by
            rintro rfl
            exact free List.mem_cons_self
          cases rest <;> simpa [isAbsolute, ofParts, List.intercalate_cons_cons] using starts

theorem exists_intercalate_concat (folders : List Text) (name : Text) :
    ∃ before, ['/'].intercalate (folders ++ [name]) = before ++ name := by
  induction folders with
  | nil => exact ⟨[], by simp⟩
  | cons folder rest ih =>
      obtain ⟨before, whole⟩ := ih
      refine ⟨folder ++ ['/'] ++ before, ?_⟩
      cases rest with
      | nil => simpa [List.intercalate_cons_cons] using whole
      | cons next later =>
          rw [List.cons_append, List.cons_append, List.intercalate_cons_cons, ← List.cons_append,
            whole]
          simp only [List.append_assoc]

theorem endsWithSlash_append (before : Text) (proper : name.IsName) :
    (Path.mk (before ++ name)).endsWithSlash = false := by
  obtain ⟨last, ends⟩ := Option.ne_none_iff_exists'.mp
    (mt List.getLast?_eq_none_iff.mp proper.visible)
  have other : last ≠ '/' := by
    rintro rfl
    exact proper.free (List.mem_of_getLast? ends)
  rw [endsWithSlash, List.getLast?_append, ends, Option.some_or]
  simpa using other

theorem endsWithSlash_ofParts (absolute : Bool) (folders : List Text) (proper : name.IsName) :
    (ofParts absolute (folders ++ [name])).endsWithSlash = false := by
  obtain ⟨before, whole⟩ := exists_intercalate_concat folders name
  rw [ofParts, whole, ← List.append_assoc]
  exact endsWithSlash_append _ proper

/-- A path that names something in a folder, neither by a dot nor with a slash behind it. -/
structure Named (path : Path) (name : Text) : Prop where
  last : path.names.getLast? = some name
  notDot : name ≠ ['.']
  notDots : name ≠ ['.', '.']
  unended : path.endsWithSlash = false

theorem Named.isName (named : path.Named name) : name.IsName :=
  isName_of_mem_names (List.mem_of_getLast? named.last)

theorem Named.names_eq (named : path.Named name) : path.names = path.names.dropLast ++ [name] := by
  obtain ⟨folders, names⟩ := List.getLast?_eq_some_iff.mp named.last
  rw [names, List.dropLast_concat]

section Join

variable {folder : Path} (proper : name.IsName)

include proper

theorem not_slash_head : name.head? ≠ some '/' :=
  fun starts => proper.free (List.mem_of_head? starts)

/-- A name is joined to a folder by a slash, if there is none already. -/
theorem exists_join (folder : Path) : ∃ before, folder.join name = ⟨before ++ name⟩ ∧
    (folder.text = [] ∧ before = [] ∨ ∃ front, before = front ++ ['/'] ∧
      (folder.text = front ++ ['/'] ∨ folder.text = front ∧ front ≠ [])) := by
  unfold join
  rw [if_neg (not_slash_head proper)]
  split
  · rename_i kept
    refine ⟨folder.text, rfl, ?_⟩
    rcases kept with empty | ends
    · exact .inl ⟨by simpa using empty, by simpa using empty⟩
    · obtain ⟨front, text⟩ := List.getLast?_eq_some_iff.mp (by simpa [endsWithSlash] using ends)
      exact .inr ⟨front, text, .inl text⟩
  · rename_i apart
    exact ⟨folder.text ++ ['/'], rfl,
      .inr ⟨folder.text, rfl, .inr ⟨rfl, fun empty => apart (.inl (by simp [empty]))⟩⟩⟩

theorem names_join : (folder.join name).names = folder.names ++ [name] := by
  obtain ⟨text⟩ := folder
  obtain ⟨before, joined, ⟨rfl, rfl⟩ | ⟨front, rfl, shape⟩⟩ := exists_join proper ⟨text⟩
  · rw [joined]
    exact names_of_isName proper
  · rw [joined, List.append_assoc, List.singleton_append, names_append_slash,
      names_of_isName proper]
    rcases shape with rfl | ⟨rfl, _⟩
    · rw [names_append_slash]
      exact congrArg (· ++ [name]) (List.append_nil _).symm
    · rfl

theorem isAbsolute_join : (folder.join name).isAbsolute = folder.isAbsolute := by
  obtain ⟨text⟩ := folder
  obtain ⟨before, joined, ⟨rfl, rfl⟩ | ⟨front, rfl, shape⟩⟩ := exists_join proper ⟨text⟩
  · rw [joined]
    simpa [isAbsolute] using not_slash_head proper
  · rw [joined]
    rcases shape with rfl | ⟨rfl, visible⟩
    · cases front <;> rfl
    · obtain ⟨first, later, rfl⟩ := List.exists_cons_of_ne_nil visible
      rfl

theorem named_join (notDot : name ≠ ['.']) (notDots : name ≠ ['.', '.']) :
    (folder.join name).Named name where
  last := by rw [names_join proper, List.getLast?_concat]
  notDot := notDot
  notDots := notDots
  unended := by
    obtain ⟨before, joined, _⟩ := exists_join proper folder
    rw [joined]
    exact endsWithSlash_append before proper

end Join

/-- The parts of a path are its names without some single dots. -/
theorem filter_parts (path : Path) :
    path.parts.filter (· != ['.']) = path.names.filter (· != ['.']) := by
  unfold parts
  cases path.names with
  | nil => rfl
  | cons first rest =>
      simp only [List.filter_append, List.filter_filter, Bool.and_self]
      split
      · rename_i dot
        simp [dot.1]
      · exact (List.filter_append [first] rest).symm

theorem parts_subset (path : Path) : path.parts ⊆ path.names := by
  unfold parts
  cases path.names with
  | nil => exact List.Subset.refl _
  | cons first rest =>
      refine List.append_subset.mpr ⟨?_, fun part kept =>
        List.mem_cons_of_mem first (List.mem_filter.mp kept).1⟩
      split
      · exact List.nil_subset _
      · exact List.cons_subset_cons first (List.nil_subset rest)

theorem Named.exists_parts (named : path.Named name) : ∃ outer, path.parts = outer ++ [name] ∧
    outer.filter (· != ['.']) = path.names.dropLast.filter (· != ['.']) := by
  have kept : [name].filter (· != ['.']) = [name] := by simp [named.notDot]
  have ends : ∃ outer, path.parts = outer ++ [name] := by
    unfold parts
    rw [named.names_eq]
    cases path.names.dropLast with
    | nil => exact ⟨[], by simp [named.notDot]⟩
    | cons first rest =>
        simp only [List.cons_append, List.filter_append, kept, ← List.append_assoc]
        exact ⟨_, rfl⟩
  obtain ⟨outer, parts⟩ := ends
  have whole := filter_parts path
  rw [parts, named.names_eq, List.filter_append, List.filter_append] at whole
  exact ⟨outer, parts, List.append_cancel_right whole⟩

def backupName (name : Text) : Text := stem name ++ ['.'] ++ "bak".toList

theorem stem_subset (name : Text) : stem name ⊆ name := by
  have kept : name.reverse.dropWhile (· != '.') ⊆ name := fun mark inside =>
    List.mem_reverse.mp ((List.dropWhile_sublist _).subset inside)
  unfold stem
  split
  · rename_i head first before cut
    rw [cut] at kept
    intro mark inside
    exact kept (List.mem_cons_of_mem _ (List.mem_reverse.mp inside))
  · exact List.Subset.refl name

theorem mem_backupName (name : Text) : 'k' ∈ backupName name :=
  List.mem_append_right _ (by decide)

theorem isName_backupName (proper : name.IsName) : (backupName name).IsName where
  visible := List.ne_nil_of_mem (mem_backupName name)
  free := by
    intro inside
    rcases List.mem_append.mp inside with inside | ending
    · rcases List.mem_append.mp inside with kept | dot
      · exact proper.free (stem_subset name kept)
      · exact absurd dot (by decide)
    · exact absurd ending (by decide)

theorem Named.exists_backupOf (named : path.Named name) : ∃ outer,
    (∀ part ∈ outer, part.IsName) ∧ (∀ part ∈ outer ++ [backupName name], part.IsName) ∧
    outer.filter (· != ['.']) = path.names.dropLast.filter (· != ['.']) ∧
    path.parent? = some (ofParts path.isAbsolute outer) ∧
    Disk.backupOf path = ofParts path.isAbsolute (outer ++ [backupName name]) := by
  obtain ⟨outer, parts, same⟩ := named.exists_parts
  have fileName : path.fileName? = some name := by
    have notEither : ¬ (name = ['.'] ∨ name = "..".toList) :=
      not_or.mpr ⟨named.notDot, named.notDots⟩
    simp only [fileName?, parts, List.getLast?_concat, if_neg notEither]
  have proper : ∀ part ∈ outer, part.IsName := fun part inside =>
    isName_of_mem_names (parts_subset path (parts ▸ List.mem_append_left _ inside))
  refine ⟨outer, proper, ?_, same, ?_, ?_⟩
  · exact List.forall_mem_append.mpr
      ⟨proper, List.forall_mem_singleton.mpr (isName_backupName named.isName)⟩
  · simp [parent?, parts]
  · simp only [Disk.backupOf, withExtension, fileName, parts, List.dropLast_concat, backupName]

end Path

namespace Disk

variable {disk other : Disk} {path : Path} {place next target : Place} {name : Text}
  {names : List Text}

theorem walk_filter_dots (disk : Disk) (place : Place) (names : List Text) :
    disk.walk place (names.filter (· != ['.'])) = disk.walk place names := by
  induction names generalizing place with
  | nil => rfl
  | cons name rest ih =>
      by_cases dot : name = ['.']
      · subst dot
        exact ih place
      · rw [List.filter_cons_of_pos (by simpa using dot), walk, walk]
        cases disk.enter place name with
        | error error => rfl
        | ok next => exact ih next

theorem walk_congr_dots {others : List Text}
    (same : names.filter (· != ['.']) = others.filter (· != ['.'])) (disk : Disk) (place : Place) :
    disk.walk place names = disk.walk place others := by
  rw [← walk_filter_dots, same, walk_filter_dots]

theorem eq_of_enter (entered : disk.enter place name = .ok next) : next =
    if name = ['.'] then place
    else if name = ['.', '.'] then place.dropLast
    else place ++ [name] := by
  rcases enter_eq_ok_iff.mp entered with ⟨rfl, rfl⟩ | ⟨rfl, rfl⟩ | ⟨notDot, notDots, _, rfl⟩
  · rfl
  · rfl
  · rw [if_neg notDot, if_neg notDots]

/-- Where names lead does not depend on the disk, if they lead anywhere. -/
theorem walk_unique (walked : disk.walk place names = .ok next)
    (again : other.walk place names = .ok target) : target = next := by
  induction names generalizing place with
  | nil =>
      cases walked
      cases again
      rfl
  | cons name rest ih =>
      obtain ⟨inner, entered, later⟩ := walk_cons_eq_ok_iff.mp walked
      obtain ⟨innerAgain, reentered, laterAgain⟩ := walk_cons_eq_ok_iff.mp again
      obtain rfl : innerAgain = inner := (eq_of_enter reentered).trans (eq_of_enter entered).symm
      exact ih later laterAgain

theorem start_eq {left right : Path} (same : left.isAbsolute = right.isAbsolute) (disk : Disk) :
    disk.start left = disk.start right := by
  rw [start, start, same]

end Disk

namespace Path.Named

open Disk

variable {path : Path} {name : Text} (named : path.Named name) (disk : Disk)

include named

theorem stagingFolder_eq :
    disk.stagingFolder path = disk.walk (disk.start path) path.names.dropLast := by
  obtain ⟨outer, proper, _, same, parent, _⟩ := named.exists_backupOf
  simp only [stagingFolder, parent, names_ofParts _ proper,
    start_eq (isAbsolute_ofParts path.isAbsolute proper) disk]
  exact walk_congr_dots same disk _

theorem locate : disk.locate path =
    (disk.stagingFolder path).map fun folder => .member folder name false := by
  have notEither : ¬ (name = ['.'] ∨ name = ['.', '.']) := not_or.mpr ⟨named.notDot, named.notDots⟩
  simp only [Disk.locate, named.last, named.stagingFolder_eq, named.unended, if_neg notEither]
  cases disk.walk (disk.start path) path.names.dropLast <;> rfl

theorem named_backupOf : (backupOf path).Named (backupName name) := by
  obtain ⟨outer, _, proper, _, _, backup⟩ := named.exists_backupOf
  have visible := mem_backupName name
  refine ⟨?_, ?_, ?_, ?_⟩
  · rw [backup, names_ofParts _ proper, List.getLast?_concat]
  · intro dot
    rw [dot] at visible
    exact absurd visible (by decide)
  · intro dots
    rw [dots] at visible
    exact absurd visible (by decide)
  · rw [backup, endsWithSlash_ofParts _ _ (isName_backupName named.isName)]

theorem stagingFolder_backupOf :
    disk.stagingFolder (backupOf path) = disk.stagingFolder path := by
  obtain ⟨outer, _, proper, same, _, backup⟩ := named.exists_backupOf
  rw [named.named_backupOf.stagingFolder_eq, named.stagingFolder_eq, backup,
    names_ofParts _ proper, List.dropLast_concat, start_eq (isAbsolute_ofParts _ proper)]
  exact walk_congr_dots same disk _

theorem locate_backupOf : disk.locate (backupOf path) =
    (disk.stagingFolder path).map fun folder => .member folder (backupName name) false := by
  rw [named.named_backupOf.locate, named.stagingFolder_backupOf]

/-- The folder of a path is the same on all disks on which it is there. -/
theorem stagingFolder_unique {other : Disk} {outer again : Place}
    (current : other.current = disk.current) (walked : disk.stagingFolder path = .ok outer)
    (rewalked : other.stagingFolder path = .ok again) : again = outer := by
  have start : other.start path = disk.start path := by rw [Disk.start, Disk.start, current]
  rw [named.stagingFolder_eq] at walked rewalked
  rw [start] at rewalked
  exact walk_unique walked rewalked

end Path.Named

theorem Disk.stagingFolder_join {folder : Path} {name : Text} (proper : name.IsName)
    (notDot : name ≠ ['.']) (notDots : name ≠ ['.', '.']) (disk : Disk) :
    disk.stagingFolder (folder.join name) = disk.walk (disk.start folder) folder.names := by
  rw [(Path.named_join proper notDot notDots).stagingFolder_eq, Path.names_join proper,
    List.dropLast_concat, start_eq (Path.isAbsolute_join proper)]

end GraphPrograms
