import GraphPrograms.Proofs.Program.Layout
import GraphPrograms.Proofs.Review.Scrolling
import GraphPrograms.Proofs.Screen.Rows

/-!
What a review shows is printable ASCII if what it is made of is.

The marks between texts are ASCII if the look asks for it.  All other texts are taken from the
review, are numbers, or are fixed: the lines of an equation bring nothing else, and scrolling a
draft only leaves characters out.
-/

namespace GraphPrograms

namespace Equation

variable {equation : Equation}

/-- An equation of printable ASCII. -/
structure Typed (equation : Equation) : Prop where
  expression : Text.Typed equation.expression
  constraint : Text.Typed equation.constraint

theorem Typed.display (typed : equation.Typed) : Text.Typed equation.display := by
  unfold Equation.display
  refine Text.typed_append_iff.mpr ⟨Text.typed_append_iff.mpr ⟨by decide, typed.expression⟩, ?_⟩
  split
  · exact Text.typed_append_iff.mpr
      ⟨Text.typed_append_iff.mpr ⟨by decide, typed.constraint⟩, by decide⟩
  · exact Text.typed_nil

end Equation

theorem FunctionKind.typed_label (kind : FunctionKind) : Text.Typed kind.label := by
  cases kind <;> decide

theorem InstructionPair.typed_lines {equation : Equation} {color : Color} (slot : Slot)
    (typed : equation.Typed) (colored : Text.Typed color.token) :
    ∀ line ∈ (ofEquation equation color slot).lines, Text.Typed line := by
  intro line member character inside
  by_contra strange
  rcases mem_of_mem_lines strange member inside with expression | constraint | token
  · exact strange (typed.expression character expression)
  · exact strange (typed.constraint character constraint)
  · exact strange (colored character token)

theorem ColorPolicy.typed_hint (policy : ColorPolicy) : Text.Typed policy.hint := by
  cases policy with
  | any => decide
  | numeric low high =>
      change Text.Typed (Text.ofNat low ++ ['-'] ++ Text.ofNat high)
      simp only [Text.typed_append_iff, Text.typed_ofNat, true_and, and_true]
      decide

theorem Path.typed_join {folder : Path} {name : Text} (typed : Text.Typed folder.text)
    (named : Text.Typed name) : Text.Typed (folder.join name).text := by
  unfold join
  split
  · exact named
  · split <;> simp [typed, named]

namespace OutputLayout

variable {layout : OutputLayout}

/-- A layout of printable ASCII. -/
structure Typed (layout : OutputLayout) : Prop where
  folder : Text.Typed layout.folder.text
  stem : Text.Typed layout.stem
  extension : Text.Typed layout.extension

theorem Typed.fileName (typed : layout.Typed) (number : Nat) :
    Text.Typed (layout.fileName number) := by
  unfold OutputLayout.fileName
  split <;> simp [typed.stem, typed.extension]

theorem Typed.pathFor (typed : layout.Typed) (number : Nat) :
    Text.Typed (layout.pathFor number).text :=
  Path.typed_join typed.folder (typed.fileName number)

end OutputLayout

theorem ColorBox.shown_subset (box : ColorBox) : box.shown ⊆ box.draft.text := by
  by_cases visible : 0 < box.room
  · obtain ⟨count, hides⟩ := exists_hides visible
    rw [shown, hides.scrolled]
    exact Draft.beyond_subset box.draft count
  · rw [shown, scrolled, if_neg (fun scrolls => visible scrolls.1)]
    exact List.Subset.refl _

namespace Review

variable {review : Review}

/-- A review whose equations, colors, draft, status, source and layout are of printable ASCII. -/
structure Typed (review : Review) : Prop where
  equations : ∀ equation ∈ review.session.equations, equation.Typed
  colors : ∀ index color, review.session.assignment.get? index = some color →
    Text.Typed color.token
  draft : Text.Typed review.draft.text
  status : ∀ status, review.status? = some status →
    ∃ text, status.text? = some text ∧ Text.Typed text
  source : ∀ path, review.source? = some path → Text.Typed path.text
  layout : review.layout.Typed

theorem typed_lines_if {condition : Prop} [Decidable condition] {lines : List Line}
    (typed : ∀ line ∈ lines, line.Typed) :
    ∀ line ∈ if condition then lines else [], line.Typed := by
  split
  · exact typed
  · exact List.forall_mem_nil _

theorem typed_progressLabel (review : Review) : Text.Typed review.progressLabel := by
  simp only [progressLabel, Text.typed_append_iff, Text.typed_ofNat, and_true, true_and]
  decide

variable (ascii : review.look.asciiOnly = true)

include ascii

theorem glyphs_of_ascii : review.glyphs = .ascii := if_pos ascii

theorem typed_counter : Text.Typed review.counter := by
  simp only [counter, glyphs_of_ascii ascii]
  split
  · simp only [Text.typed_append_iff, Text.typed_ofNat]
    decide
  · simp only [Text.typed_append_iff, Text.typed_ofNat]
    decide

theorem typed_keyLine : review.keyLine.Typed := by
  have texts : review.keyLine.map Span.text =
      [" | ".toList].intercalate (keyHints.map fun hint => [hint.1, ' ' :: hint.2]) := by
    rw [keyLine, glyphs_of_ascii ascii]
    rfl
  have typed : ∀ text ∈ review.keyLine.map Span.text, Text.Typed text := by
    rw [texts]
    decide
  exact List.forall_mem_map.mp typed

variable (typed : review.Typed)

include typed

theorem typed_heading : review.heading.Typed := by
  have name : Text.Typed " ticonv ".toList := by decide
  refine List.forall_mem_cons.mpr ⟨name, List.forall_mem_map.mpr fun source given => ?_⟩
  have mark : Text.Typed (Glyphs.ascii.separator ++ [' ']) := by decide
  rw [glyphs_of_ascii ascii]
  exact Text.typed_append_iff.mpr ⟨mark, typed.source source (Option.mem_toList.mp given)⟩

theorem typed_equationLines {equation : Equation} (listed : equation ∈ review.session.equations) :
    ∀ line ∈ review.equationLines (review.session.currentView equation), line.Typed := by
  have shown := (typed.equations equation listed).display.printable
  have label := (FunctionKind.classify equation.expression).typed_label
  have word : Text.Typed "Type: ".toList := by decide
  have mark : Text.Typed ("  ".toList ++ Glyphs.ascii.colored ++ [' ']) := by decide
  refine List.forall_mem_cons.mpr ⟨Line.typed_single shown,
    List.forall_mem_singleton.mpr (List.forall_mem_append.mpr
      ⟨List.forall_mem_cons.mpr ⟨word, Line.typed_single label⟩,
        List.forall_mem_map.mpr fun color given => ?_⟩)⟩
  rw [glyphs_of_ascii ascii]
  have colored := typed.colors _ color (Option.mem_toList.mp given)
  exact Text.typed_append_iff.mpr ⟨mark, colored.printable⟩

omit ascii in
theorem typed_previewLines {equation : Equation} (listed : equation ∈ review.session.equations) :
    ∀ line ∈ review.previewLines (review.session.currentView equation), line.Typed := by
  have colored : Text.Typed (review.session.currentColor?.getD .placeholder).token := by
    cases given : review.session.currentColor? with
    | none => decide
    | some color => exact typed.colors _ color given
  refine List.forall_mem_map.mpr fun line instructed => Line.typed_single ?_
  have lines := InstructionPair.typed_lines (.ofPosition review.session.cursor)
    (typed.equations equation listed) colored
  exact (lines line instructed).printable

theorem typed_boxLine (area : Area) (palette : Palette) :
    ((review.colorBox area).line palette).Typed := by
  have lead : Text.Typed (review.colorBox area).lead := by
    rw [ColorBox.lead, colorBox, glyphs_of_ascii ascii]
    exact of_decide_eq_true rfl
  have shown := (typed.draft.of_subset (review.colorBox area).shown_subset).printable
  exact List.forall_mem_cons.mpr ⟨lead, Line.typed_single shown⟩

theorem typed_statusSpan : Text.Typed review.statusSpan.text := by
  unfold statusSpan
  split
  · rename_i status given
    obtain ⟨text, known, written⟩ := typed.status status given
    have lead : Text.Typed ([' '] ++ (statusLead review.palette status.kind).1) := by
      cases status.kind <;> exact of_decide_eq_true rfl
    rw [known, Option.getD_some]
    exact (Text.typed_append_iff.mpr ⟨lead, written⟩).printable
  · have lead : Text.Typed ([' '] ++ Glyphs.ascii.bullet ++ " output ".toList ++
        Glyphs.ascii.arrow ++ [' ']) := by decide
    rw [glyphs_of_ascii ascii]
    exact (Text.typed_append_iff.mpr ⟨lead, typed.layout.pathFor 1⟩).printable

omit ascii in
theorem typed_targets : Text.Typed review.targets := by
  unfold targets
  split
  · exact typed.layout.pathFor 1
  · have between : Text.Typed " .. ".toList := by decide
    exact Text.typed_append_iff.mpr ⟨Text.typed_append_iff.mpr
      ⟨typed.layout.pathFor 1, between⟩, typed.layout.fileName _⟩

theorem typed_summaryLines : ∀ line ∈ review.summaryLines, line.Typed := by
  have blank : Line.Typed [] := List.forall_mem_nil _
  have bullet : Text.Typed (Glyphs.ascii.bullet ++ [' ']) := by decide
  unfold summaryLines
  rw [glyphs_of_ascii ascii]
  refine List.forall_mem_append.mpr ⟨List.forall_mem_append.mpr ⟨List.forall_mem_append.mpr
    ⟨?counts, typed_lines_if ?uncolored⟩, typed_lines_if ?rejected⟩, typed_lines_if ?programs⟩
  case counts =>
    have done : Text.Typed (Glyphs.ascii.done ++ " All equations processed!".toList) := by decide
    have counted : Text.Typed (Text.ofNat review.session.assignment.assigned ++ " of ".toList ++
        Text.ofNat review.session.total ++ " equations colored".toList) := by
      simp only [Text.typed_append_iff, Text.typed_ofNat]
      decide
    simp only [List.forall_mem_cons]
    exact ⟨blank, Line.typed_single done, blank, Line.typed_single counted, List.forall_mem_nil _⟩
  case uncolored =>
    have fallback : Text.Typed (Text.ofNat (review.session.total -
        review.session.assignment.assigned) ++ " without a color will use ".toList ++
          Color.fallback.token) := by
      simp only [Text.typed_append_iff, Text.typed_ofNat]
      decide
    exact List.forall_mem_singleton.mpr
      (Line.typed_single (Text.typed_append_iff.mpr ⟨bullet, fallback⟩))
  case rejected =>
    have saved : Text.Typed (Text.ofNat review.rejected ++ " rejected lines saved".toList) := by
      simp only [Text.typed_append_iff, Text.typed_ofNat]
      decide
    exact List.forall_mem_singleton.mpr
      (Line.typed_single (Text.typed_append_iff.mpr ⟨bullet, saved⟩))
  case programs =>
    have key : Text.Typed "Ctrl+L".toList := by decide
    have arrow : Text.Typed ([' '] ++ Glyphs.ascii.arrow ++ " write ".toList) := by decide
    have written := Text.typed_append_iff.mpr ⟨arrow, typed_targets typed⟩
    exact List.forall_mem_cons.mpr ⟨blank, List.forall_mem_singleton.mpr
      (List.forall_mem_cons.mpr ⟨key, Line.typed_single written⟩)⟩

end Review

end GraphPrograms
