import Mathlib.Data.List.Flatten
import GraphPrograms.Proofs.Color.Canonical
import GraphPrograms.Proofs.Equation.Grammar
import GraphPrograms.Proofs.Equation.Normalization
import GraphPrograms.Proofs.Equation.Sorting
import GraphPrograms.Proofs.Review.Step
import GraphPrograms.Proofs.Text.Characters

/-!
No line feed gets into what a program is made of.

Equations come from single lines of a file, and colors from a draft.  The draft is the place to
watch: every edit keeps line feeds out, and after a move it holds a color, so colors and draft have
to be followed together.
-/

namespace GraphPrograms

variable {character : Char} {text line : Text}

namespace Equation

/-- An equation without a line feed in it. -/
structure Unbroken (equation : Equation) : Prop where
  expression : '\n' ∉ equation.expression
  constraint : '\n' ∉ equation.constraint

theorem subset_of_spells {equation : Equation} (spells : Spells line equation) :
    equation.expression ⊆ line ∧ equation.constraint ⊆ line := by
  obtain ⟨_, _, _, _, _, constrains⟩ := spells
  constructor
  · intro character member
    have inside := Text.trim_subset _ member
    simp [inside]
  · cases constrains with
    | free => simp
    | body encloses =>
        obtain ⟨_, _, ignored, rfl⟩ := encloses
        intro character member
        have inside := Text.trim_subset _ member
        simp [inside]

/-- The lines of a file have no line feed in them, whether they are made plain or not. -/
theorem lineFeed_not_mem_of_readLines {disk : Disk} {path : Path} {plain : Bool}
    {lines : List Text} (read : Storage.readLines disk path plain = .ok lines)
    (member : line ∈ lines) : '\n' ∉ line := by
  unfold Storage.readLines at read
  split at read
  · contradiction
  · cases read
    split at member
    · obtain ⟨raw, _, rfl⟩ := List.mem_map.mp member
      intro inside
      rcases Text.of_mem_compact inside with space | visible
      · exact absurd space (by decide)
      · exact absurd visible (by decide)
    · exact Text.not_mem_of_mem_lines member

theorem unbroken_of_load {disk : Disk} {path : Path} {plain : Bool} {sheet : Sheet}
    (loaded : Storage.load disk path plain = .ok sheet) :
    ∀ equation ∈ sheet.equations, equation.Unbroken := by
  intro equation member
  cases lines : Storage.readLines disk path plain with
  | error cause => simp [Storage.load, lines, Except.map] at loaded
  | ok lines' =>
      simp only [Storage.load, lines, Except.map, Except.ok.injEq] at loaded
      subst loaded
      obtain ⟨line, listed, read⟩ := Sheet.exists_line_of_mem_equations member
      have free := lineFeed_not_mem_of_readLines lines listed
      obtain ⟨expression, constraint⟩ := subset_of_spells (parse_eq_ok_iff.mp read)
      exact ⟨fun inside => free (expression inside), fun inside => free (constraint inside)⟩

end Equation

namespace Draft

variable {draft : Draft}

theorem upTo_subset (draft : Draft) (count : Nat) : draft.upTo count ⊆ draft.text := by
  conv_rhs => rw [← upTo_append_beyond draft count]
  exact List.subset_append_left _ _

theorem beyond_subset (draft : Draft) (count : Nat) : draft.beyond count ⊆ draft.text := by
  conv_rhs => rw [← upTo_append_beyond draft count]
  exact List.subset_append_right _ _

theorem text_deleteBack_sublist (draft : Draft) : draft.deleteBack.text.Sublist draft.text := by
  unfold deleteBack
  split
  · exact List.Sublist.refl _
  · have fewer : (draft.upTo (draft.cursor - 1)).Sublist draft.before :=
      (List.take_sublist_take_left (Nat.sub_le _ _)).flatten
    rw [← before_append_after draft]
    exact fewer.append_right _

theorem text_deleteForward_subset (draft : Draft) : draft.deleteForward.text ⊆ draft.text := by
  unfold deleteForward
  split
  · exact List.append_subset.mpr ⟨upTo_subset draft _, beyond_subset draft _⟩
  · exact List.Subset.refl _

theorem text_deleteRun_sublist (blank : Bool) (draft : Draft) :
    (draft.deleteRun blank).text.Sublist draft.text := by
  fun_induction deleteRun blank draft with
  | case1 draft _ ih => exact ih.trans (text_deleteBack_sublist draft)
  | case2 => exact List.Sublist.refl _

theorem text_deleteWord_sublist (draft : Draft) : draft.deleteWord.text.Sublist draft.text :=
  (text_deleteRun_sublist false _).trans (text_deleteRun_sublist true draft)

theorem lineFeed_not_mem_apply (edit : DraftEdit) (free : '\n' ∉ draft.text) :
    '\n' ∉ (draft.apply edit).text := by
  cases edit with
  | insertChar character =>
      rw [apply, insertChar]
      split
      · exact free
      · rename_i taken
        have other : '\n' ≠ character := by
          rintro rfl
          exact taken rfl
        intro inside
        rcases List.mem_append.mp inside with inside | after
        · rcases List.mem_append.mp inside with before | typed
          · exact free (upTo_subset draft _ before)
          · exact other (List.mem_singleton.mp typed)
        · exact free (beyond_subset draft _ after)
  | insert text =>
      simp only [apply, insert]
      split
      · exact free
      · intro inside
        rcases List.mem_append.mp inside with inside | after
        · rcases List.mem_append.mp inside with before | pasted
          · exact free (upTo_subset draft _ before)
          · exact absurd (List.mem_filter.mp pasted).2 (by decide)
        · exact free (beyond_subset draft _ after)
  | deleteBack => exact fun inside => free ((text_deleteBack_sublist draft).subset inside)
  | deleteForward => exact fun inside => free (text_deleteForward_subset draft inside)
  | deleteWord => exact fun inside => free ((text_deleteWord_sublist draft).subset inside)
  | clear => exact List.not_mem_nil
  | left | right | home | toEnd => exact free

end Draft

namespace Assignment

/-- Colors without a line feed in any of them. -/
def Unbroken (assignment : Assignment) : Prop :=
  ∀ index color, assignment.get? index = some color → '\n' ∉ color.token

theorem unbroken_blank (size : Nat) : (blank size).Unbroken := by
  intro index color found
  simp at found

theorem Unbroken.resolved {assignment : Assignment} (unbroken : assignment.Unbroken)
    (index : Nat) : '\n' ∉ (assignment.resolved index).token := by
  unfold Assignment.resolved
  cases found : assignment.get? index with
  | none => decide
  | some color => exact unbroken index color found

end Assignment

namespace Review

/-- A session of given equations and a draft that no line feed has got into. -/
structure Unbroken (equations : List Equation) (session : Session) (draft : Draft) : Prop where
  equations_eq : session.equations = equations
  colors : session.assignment.Unbroken
  draft : '\n' ∉ draft.text

theorem lineFeed_not_mem_prefilled {session : Session} (unbroken : session.assignment.Unbroken) :
    '\n' ∉ (prefilled session).text := by
  unfold prefilled
  cases found : session.currentColor? with
  | none => exact List.not_mem_nil
  | some color => exact unbroken session.cursor color found

theorem Step.unbroken {review : Review} {equations : List Equation} {session : Session}
    {draft : Draft} (step : Step review session draft)
    (before : Unbroken equations review.session review.draft) :
    Unbroken equations session draft := by
  have colors : session.assignment.Unbroken := by
    intro index color found
    rcases step.get?_assignment found with earlier | ⟨_, rfl⟩
    · exact before.colors index color earlier
    · exact fun inside => before.draft (Color.mem_of_mem_ofText (by decide) inside)
  refine ⟨step.equations_eq.trans before.equations_eq, colors, ?_⟩
  cases step with
  | rest => exact before.draft
  | edit edit => exact Draft.lineFeed_not_mem_apply edit before.draft
  | move => exact lineFeed_not_mem_prefilled colors

theorem unbroken_run {equations : List Equation} {settings : Settings}
    {source? : Option (Path × Nat)} (disk : Disk) (events : List Event) :
    Unbroken equations ((opened equations settings source?).run disk events).1.session
      ((opened equations settings source?).run disk events).1.draft := by
  refine run_induction (motive := fun review => Unbroken equations review.session review.draft)
    (fun review disk event before => (handle_step review disk event).unbroken before) ?_ disk events
  obtain ⟨session, draft⟩ := opened_fresh equations settings source?
  rw [session, draft]
  exact ⟨rfl, Assignment.unbroken_blank _, List.not_mem_nil⟩

end Review

end GraphPrograms
