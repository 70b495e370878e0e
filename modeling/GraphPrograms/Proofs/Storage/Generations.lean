import GraphPrograms.Proofs.Storage.Placing
import Mathlib.Data.List.Nodup

/-!
The programs of a layout, generation after generation.

Replacing one program leaves the others as they are (`read_pathFor_of_replace_other`).  So a number
holds what was last written under it (`Generates.holds`).
-/

namespace GraphPrograms

namespace Storage

open Disk

variable {layout : OutputLayout} {disk before after : Disk} {content : ByteArray}
  {number other : Nat} {chunks : List Chunk} {paths : List Path}

theorem read_pathFor_of_replace_other (flat : layout.Flat) (different : other ≠ number)
    (replaced : before.replace (layout.pathFor number) content = (after, .ok ())) :
    after.read (layout.pathFor other) = before.read (layout.pathFor other) := by
  have named := OutputLayout.named_pathFor flat other
  obtain ⟨outer, walkedBefore, walked, _⟩ :=
    (OutputLayout.named_pathFor flat number).sets_or_setsAside_of_replace replaced
  rw [OutputLayout.stagingFolder_pathFor flat, ← OutputLayout.stagingFolder_pathFor flat _ other]
    at walkedBefore walked
  obtain rfl := OutputLayout.lead_eq_of_walked flat walkedBefore
  obtain ⟨_, _, elsewhere⟩ := kind?_of_replace_pathFor flat replaced
  have kept := elsewhere other different _ (List.prefix_refl _)
  rw [OutputLayout.spot] at kept
  rw [named.read_eq walked, named.read_eq walkedBefore, kept]

theorem read_pathFor_of_replaceEach (flat : layout.Flat)
    (distinct : (chunks.map Chunk.number).Nodup)
    (replaced : replaceEach disk
      (chunks.map fun chunk => (layout.pathFor chunk.number, chunk.text)) = (after, .ok paths)) :
    (∀ chunk ∈ chunks, after.read (layout.pathFor chunk.number) = .ok (Text.encode chunk.text)) ∧
      ∀ number ∉ chunks.map Chunk.number,
        after.read (layout.pathFor number) = disk.read (layout.pathFor number) := by
  induction chunks generalizing disk paths with
  | nil =>
      cases replaced
      exact ⟨List.forall_mem_nil _, fun _ _ => rfl⟩
  | cons chunk rest ih =>
      obtain ⟨next, later, first, others, rfl⟩ := replaceEach_cons replaced
      obtain ⟨fresh, restDistinct⟩ := List.nodup_cons.mp distinct
      obtain ⟨written, kept⟩ := ih restDistinct others
      refine ⟨List.forall_mem_cons.mpr ⟨?_, written⟩, fun number outside => ?_⟩
      · rw [kept chunk.number fresh,
          (OutputLayout.named_pathFor flat chunk.number).read_of_replace first]
      · rw [kept number (List.not_mem_of_not_mem_cons outside),
          read_pathFor_of_replace_other flat (List.ne_of_not_mem_cons outside) first]

/-- What is read at a path afterwards: the program that was written there, or the file from
before. -/
def Holds (before after : Disk) (path : Path) : Option Chunk → Prop
  | some chunk => after.read path = .ok (Text.encode chunk.text)
  | none => ∀ content, before.read path = .ok content → after.read path = .ok content

theorem Holds.trans {next : Disk} {path : Path} {first later : Option Chunk}
    (holds : Holds before next path first) (again : Holds next after path later) :
    Holds before after path (later.or first) := by
  cases later with
  | some chunk => exact again
  | none =>
      cases first with
      | some chunk => exact again _ holds
      | none => exact fun content held => again content (holds content held)

theorem number_of_getElem? {chunk : Chunk} {index : Nat}
    (numbered : chunks.map Chunk.number = List.range' 1 chunks.length)
    (found : chunks[index]? = some chunk) : chunk.number = index + 1 := by
  have same := congrArg (·[index]?) numbered
  have inside : index < chunks.length := (List.getElem?_eq_some_iff.mp found).1
  simpa [found, List.getElem?_range' inside, Nat.add_comm] using same

theorem holds_of_writePrograms (flat : layout.Flat)
    (numbered : chunks.map Chunk.number = List.range' 1 chunks.length)
    (written : writePrograms disk layout chunks = (after, .ok paths)) (index : Nat) :
    Holds disk after (layout.pathFor (index + 1)) chunks[index]? := by
  rcases replaceEach_of_writePrograms written with ⟨rfl, rfl, _⟩ | replaced
  · exact fun _ held => held
  · have distinct : (chunks.map Chunk.number).Nodup := numbered ▸ List.nodup_range'
    obtain ⟨programs, others⟩ := read_pathFor_of_replaceEach flat distinct replaced
    cases found : chunks[index]? with
    | some chunk =>
        have program := programs chunk (List.mem_of_getElem? found)
        rwa [number_of_getElem? numbered found] at program
    | none =>
        intro content held
        have outside : index + 1 ∉ chunks.map Chunk.number := by
          have short := List.getElem?_eq_none_iff.mp found
          rw [numbered, List.mem_range'_1]
          omega
        rw [others _ outside]
        exact (grows_makeFolders disk layout.folder).read held

/-- Programs are written time after time, each time with success. -/
inductive Generates (layout : OutputLayout) :
    Disk → List (List Chunk) → List (List Path) → Disk → Prop
  | refl (disk : Disk) : Generates layout disk [] [] disk
  | head {disk next after : Disk} {chunks : List Chunk} {paths : List Path}
      {generations : List (List Chunk)} {returned : List (List Path)}
      (written : writePrograms disk layout chunks = (next, .ok paths))
      (later : Generates layout next generations returned after) :
      Generates layout disk (chunks :: generations) (paths :: returned) after

namespace Generates

variable {generations : List (List Chunk)} {returned : List (List Path)}
  (generated : Generates layout disk generations returned after)
  (numbered : ∀ chunks ∈ generations, chunks.map Chunk.number = List.range' 1 chunks.length)

include generated numbered

theorem holds (flat : layout.Flat) (index : Nat) : Holds disk after (layout.pathFor (index + 1))
    (generations.filterMap (·[index]?)).getLast? := by
  induction generated with
  | refl disk => exact fun _ held => held
  | @head disk next after chunks paths generations returned written later ih =>
      obtain ⟨firstNumbered, laterNumbered⟩ := List.forall_mem_cons.mp numbered
      have whole := (holds_of_writePrograms flat firstNumbered written index).trans
        (ih laterNumbered)
      cases found : chunks[index]? with
      | none => simpa [found] using whole
      | some chunk => simpa [found, List.getLast?_cons] using whole

theorem returned_eq : returned =
    generations.map fun chunks => (List.range' 1 chunks.length).map layout.pathFor := by
  induction generated with
  | refl disk => rfl
  | @head disk next after chunks paths generations returned written later ih =>
      obtain ⟨firstNumbered, laterNumbered⟩ := List.forall_mem_cons.mp numbered
      rw [List.map_cons, ← ih laterNumbered, paths_of_writePrograms written, ← firstNumbered,
        List.map_map]
      rfl

end Generates

/-- However often programs are written, and however many each time, the file of a number is the last
program that had the number. -/
theorem generations_hold_latest (flatStem : '/' ∉ layout.stem)
    (flatExtension : '/' ∉ layout.extension) {generations : List (List Chunk)}
    {returned : List (List Path)}
    (numbered : ∀ chunks ∈ generations, chunks.map Chunk.number = List.range' 1 chunks.length)
    (generated : Generates layout disk generations returned after) :
    (∀ index, match (generations.filterMap (·[index]?)).getLast? with
      | some chunk => after.read (layout.pathFor (index + 1)) = .ok (Text.encode chunk.text)
      | none => ∀ content, disk.read (layout.pathFor (index + 1)) = .ok content →
          after.read (layout.pathFor (index + 1)) = .ok content) ∧
    returned = (generations.map fun chunks => (List.range' 1 chunks.length).map layout.pathFor) ∧
    (∀ paths ∈ returned, paths.Nodup) ∧
    ∀ disk, writePrograms disk layout [] = (disk, .ok []) := by
  have flat : layout.Flat := ⟨flatStem, flatExtension⟩
  have paths := generated.returned_eq numbered
  refine ⟨fun index => ?_, paths, ?_, fun _ => rfl⟩
  · have holds := generated.holds numbered flat index
    cases latest : (generations.filterMap (·[index]?)).getLast? with
    | some chunk => rwa [latest] at holds
    | none => rwa [latest] at holds
  · rw [paths, List.forall_mem_map]
    exact fun chunks _ => List.Nodup.map (OutputLayout.pathFor_injective flat) List.nodup_range'

/-- Two programs, the first where a folder stands that is not empty, and a single one later. -/
theorem generations_hold_latest_fewer :
    let disk : Disk := { root := .folder [
      ("program1.txt".toList, .folder [("note".toList, .file ByteArray.empty)]),
      ("program3.txt".toList, .file ByteArray.empty)] }
    let newer : Chunk := .assemble 1 [(⟨['x'], []⟩, .fallback)]
    ∃ after, Generates {} disk [[⟨1, []⟩, ⟨2, []⟩], [newer]]
        [[.ofString "./program1.txt", .ofString "./program2.txt"], [.ofString "./program1.txt"]]
        after ∧
      after.read (.ofString "./program1.txt") = .ok (Text.encode newer.text) ∧
      after.read (.ofString "./program2.txt") = .ok (Text.encode (Chunk.mk 2 []).text) ∧
      after.read (.ofString "./program3.txt") = .ok ByteArray.empty := by
  intro disk newer
  have once : (writePrograms disk {} [⟨1, []⟩, ⟨2, []⟩]).2.toOption =
      some [.ofString "./program1.txt", .ofString "./program2.txt"] := by decide +kernel
  have again : (writePrograms (writePrograms disk {} [⟨1, []⟩, ⟨2, []⟩]).1 {} [newer]).2.toOption =
      some [.ofString "./program1.txt"] := by decide +kernel
  have generated := Generates.head (eq_of_toOption once) (.head (eq_of_toOption again) (.refl _))
  obtain ⟨holds, _⟩ := generations_hold_latest (by decide) (by decide) (by decide) generated
  exact ⟨_, generated, holds 0, holds 1, holds 2 _ rfl⟩

end Storage

end GraphPrograms
