import GraphPrograms.Proofs.Files.Leading
import GraphPrograms.Proofs.Files.Replacing
import GraphPrograms.Proofs.Storage.Naming
import GraphPrograms.Proofs.Storage.Saving

/-!
The places of the programs of a layout.

All of them are in the folder that the names of its path lead to.  What replacing one program does
to the others is settled by their names: neither the file itself nor a folder that is kept aside for
it is in the way of another one (`kind?_of_replace_pathFor`).
-/

namespace GraphPrograms

namespace OutputLayout

variable {layout : OutputLayout} {disk other : Disk} {number : Nat}

/-- The places that the path of the programs' folder leads through. -/
def way (layout : OutputLayout) (disk : Disk) : List Place :=
  Disk.through (disk.start layout.folder) layout.folder.names

/-- The place that the path of a program leads to if it leads anywhere (`destination_pathFor`). -/
def spot (layout : OutputLayout) (disk : Disk) (number : Nat) : Place :=
  Disk.lead (disk.start layout.folder) layout.folder.names ++ [layout.fileName number]

theorem way_of_current (current : other.current = disk.current) :
    layout.way other = layout.way disk := by
  rw [way, way, Disk.start, Disk.start, current]

theorem spot_of_current (current : other.current = disk.current) :
    layout.spot other = layout.spot disk := by
  funext number
  rw [spot, spot, Disk.start, Disk.start, current]

theorem lead_pathFor (flat : layout.Flat) (disk : Disk) (number : Nat) :
    Disk.lead (disk.start (layout.pathFor number)) (layout.pathFor number).names =
      layout.spot disk number := by
  have proper := isName_fileName flat number
  have last : ∀ place, Disk.step place (layout.fileName number) =
      place ++ [layout.fileName number] := fun place => by
    rw [Disk.step, if_neg (layout.fileName_ne_dots number).1,
      if_neg (layout.fileName_ne_dots number).2]
  rw [pathFor, Path.names_join proper, Disk.lead_append,
    Disk.start_eq (Path.isAbsolute_join proper)]
  exact last _

theorem destination_pathFor (flat : layout.Flat) {target : Disk.Target}
    (located : disk.locate (layout.pathFor number) = .ok target) :
    target.destination = layout.spot disk number := by
  rw [Disk.destination_eq located, lead_pathFor flat]

theorem lead_eq_of_walked (flat : layout.Flat) {outer : Place}
    (walked : disk.stagingFolder (layout.pathFor number) = .ok outer) :
    outer = Disk.lead (disk.start layout.folder) layout.folder.names := by
  rw [stagingFolder_pathFor flat] at walked
  exact Disk.eq_lead_of_walk walked

end OutputLayout

namespace Storage

open Disk

variable {layout : OutputLayout} {disk before after : Disk} {content : ByteArray} {number : Nat}
  {chunks : List Chunk} {paths : List Path}

theorem kind?_of_replace_pathFor (flat : layout.Flat)
    (replaced : before.replace (layout.pathFor number) content = (after, .ok ())) :
    after.current = before.current ∧
      after.kind? (layout.spot before number) = some (.file content) ∧
      ∀ other ≠ number, ∀ place, layout.spot before other <+: place →
        after.kind? place = before.kind? place := by
  have named := OutputLayout.named_pathFor flat number
  obtain ⟨outer, walked, _, outcome⟩ := named.sets_or_setsAside_of_replace replaced
  obtain rfl := OutputLayout.lead_eq_of_walked flat walked
  rcases outcome with ⟨_, sets⟩ | ⟨_, _, setsAside⟩
  · refine ⟨sets.current, sets.kind?_self, fun other different place under => ?_⟩
    refine sets.kind?_of_ne ?_
    rintro rfl
    exact not_prefix_of_concat_ne (fun same => different (layout.fileName_injective same)) under
  · refine ⟨setsAside.current, setsAside.kind?_self, fun other different place under => ?_⟩
    refine setsAside.kind?_of_outside (not_prefix_of_sibling (fun same => ?_) under)
      (not_prefix_of_sibling (fun same => ?_) under)
    · exact different (layout.fileName_injective same).symm
    · exact different (OutputLayout.eq_of_backupName_fileName same)

theorem kind?_of_replaceEach (flat : layout.Flat) (distinct : (chunks.map Chunk.number).Nodup)
    (replaced : replaceEach disk
      (chunks.map fun chunk => (layout.pathFor chunk.number, chunk.text)) = (after, .ok paths)) :
    after.current = disk.current ∧
      (∀ chunk ∈ chunks,
        after.kind? (layout.spot disk chunk.number) = some (.file (Text.encode chunk.text))) ∧
      ∀ number ∉ chunks.map Chunk.number, ∀ place, layout.spot disk number <+: place →
        after.kind? place = disk.kind? place := by
  induction chunks generalizing disk paths with
  | nil =>
      cases replaced
      exact ⟨rfl, List.forall_mem_nil _, fun _ _ _ _ => rfl⟩
  | cons chunk rest ih =>
      obtain ⟨next, later, first, others, rfl⟩ := replaceEach_cons replaced
      obtain ⟨fresh, restDistinct⟩ := List.nodup_cons.mp distinct
      obtain ⟨current, here, elsewhere⟩ := kind?_of_replace_pathFor flat first
      obtain ⟨lastCurrent, written, kept⟩ := ih restDistinct others
      rw [OutputLayout.spot_of_current current] at written kept
      refine ⟨lastCurrent.trans current, List.forall_mem_cons.mpr ⟨?_, written⟩,
        fun number outside place under => ?_⟩
      · rw [kept chunk.number fresh _ (List.prefix_refl _), here]
      · rw [kept number (List.not_mem_of_not_mem_cons outside) place under,
          elsewhere number (List.ne_of_not_mem_cons outside) place under]

end Storage

end GraphPrograms
