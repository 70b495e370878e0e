import GraphPrograms.Proofs.Files.Covering
import GraphPrograms.Proofs.Files.Leading

/-!
Paths that go astray.

A path leads where it led if the folders that it leads through stay (`walk_of_through`).  So when a
folder is taken away that stands at a path, the path goes astray only if it leads through that very
folder on its way (`mem_through_of_astray`).  No other path that names a file is changed by a
replacement that fails (`restores_or_astray`).
-/

namespace GraphPrograms

namespace Disk

variable {disk before after : Disk} {place next outer : Place} {name : Text} {names : List Text}

theorem through_cons (place : Place) (name : Text) (rest : List Text) :
    through place (name :: rest) = step place name :: through (step place name) rest := rfl

theorem walk_of_through (folders : ∀ inner ∈ through place names,
      before.kind? inner = some .folder → after.kind? inner = some .folder)
    (walked : before.walk place names = .ok next) : after.walk place names = .ok next := by
  induction names generalizing place with
  | nil => exact walked
  | cons name rest ih =>
      obtain ⟨inner, entered, onward⟩ := walk_cons_eq_ok_iff.mp walked
      have here : inner = step place name := eq_of_enter entered
      rw [through_cons, ← here] at folders
      obtain ⟨first, later⟩ := List.forall_mem_cons.mp folders
      exact walk_cons_eq_ok_iff.mpr ⟨inner, enter_of_enter first entered, ih later onward⟩

/-- Names that lead out of a place, or past it, lead through it. -/
theorem mem_through_of_leaving (under : next <+: place) (out : ¬ next <+: lead place names) :
    next ∈ place :: through place names := by
  induction names generalizing place with
  | nil => exact absurd under out
  | cons name rest ih =>
      by_cases still : next <+: step place name
      · exact List.mem_cons_of_mem _ (ih still out)
      · -- Only the step out of the place itself leaves what is under it.
        obtain ⟨below, rfl⟩ := under
        have alone : below = [] := by
          by_contra some
          obtain ⟨front, last, rfl⟩ := List.eq_nil_or_concat below |>.resolve_left some
          refine still ?_
          unfold step
          split
          · exact List.prefix_append _ _
          · split
            · rw [List.concat_eq_append, ← List.append_assoc, List.dropLast_concat]
              exact List.prefix_append _ _
            · rw [List.append_assoc]
              exact List.prefix_append _ _
        rw [alone, List.append_nil]
        exact List.mem_cons_self

theorem not_prefix_of_mem_through (outside : outer ∉ through place names)
    (out : ¬ outer <+: lead place names) (passed : next ∈ through place names) :
    ¬ outer <+: next := by
  intro under
  obtain ⟨front, some, ⟨rest, rfl⟩, rfl⟩ := mem_through_iff.mp passed
  rw [lead_append] at out
  rcases List.mem_cons.mp (mem_through_of_leaving under out) with rfl | later
  · exact outside passed
  · obtain ⟨back, _, ⟨tail, rfl⟩, rfl⟩ := mem_through_iff.mp later
    refine outside (mem_through_iff.mpr ⟨front ++ back, by simp [some], ?_, lead_append _ _ _⟩)
    rw [← List.append_assoc]
    exact List.prefix_append _ _

/-- A path that does not lead through a place needs nothing that stands there. -/
theorem walk_erase (outside : outer ++ [name] ∉ through place names)
    (out : ¬ outer ++ [name] <+: lead place names)
    (walked : disk.walk place names = .ok next) :
    (disk.erase (outer ++ [name])).walk place names = .ok next := by
  refine walk_of_through (fun inner passed folder => ?_) walked
  rw [kind?_erase, if_neg (not_prefix_of_mem_through outside out passed), folder]

end Disk

namespace Path.Named

open Disk

variable {disk before after : Disk} {path : Path} {name : Text} {content : ByteArray}
  (named : path.Named name)

include named

theorem mem_through_of_astray (astray : disk.Astray path) :
    lead (disk.start path) path.names ∈ through (disk.start path) path.names.dropLast := by
  obtain ⟨target, located, _, lost⟩ := astray
  have destination := destination_eq located
  rw [named.locate, named.stagingFolder_eq] at located
  cases walked : disk.walk (disk.start path) path.names.dropLast with
  | error error => simp [walked, Except.map] at located
  | ok outer =>
      simp only [walked, Except.map, Except.ok.injEq] at located
      obtain rfl := located
      have led := eq_lead_of_walk walked
      rw [← destination]
      by_contra outside
      refine lost outer ?_
      rw [named.stagingFolder_eq]
      exact walk_erase outside (led ▸ not_prefix_outer outer name) walked

theorem restores_or_astray {error : WriteError}
    (failed : before.replace path content = (after, .error error)) :
    (∀ place, after.kind? place = before.kind? place) ∨ before.Astray path := by
  by_cases strands : before.Strands path
  · right
    cases strands with
    | dotted located =>
        rw [named.locate] at located
        cases walked : before.stagingFolder path <;> simp [walked, Except.map] at located
    | slashed located =>
        obtain ⟨_, slash⟩ := Path.stagingFolder_of_locate located
        rw [named.unended] at slash
        contradiction
    | astray located folder _ _ through => exact ⟨_, located, folder, through⟩
  · exact .inl ((restores_iff failed).mpr strands)

end Path.Named

end GraphPrograms
