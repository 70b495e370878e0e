import GraphPrograms.Proofs.Review.Announcing
import GraphPrograms.Proofs.Review.Typed
import GraphPrograms.Proofs.Screen.Marks

/-!
Which cells of a screen are not ASCII though the look asks for ASCII.

All that is written is ASCII then.  What is left are the frames of the panels, which have the same
round corners in every look, and the bar of the progress (`draw_ascii_iff`).
-/

namespace GraphPrograms

theorem Session.exists_current {session : Session} (active : session.isDone = false) :
    ∃ equation ∈ session.equations, session.view.current = some (session.currentView equation) := by
  rw [isDone, decide_eq_false_iff_not, Nat.not_le] at active
  refine ⟨_, List.getElem_mem active, ?_⟩
  rw [view, current?, List.getElem?_eq_getElem active, Option.map_some]

theorem Area.inset_cases (width height : Nat) :
    (mk 0 0 width height).inset.width = 0 ∨
      (mk 0 0 width height).inset = ⟨1, 1, width - 2, height - 2⟩ := by
  unfold inset
  split
  · exact .inl rfl
  · exact .inr rfl

namespace Review

open Canvas

variable {review : Review} {canvas : Canvas} {width height : Nat}

/-- The rows of a screen that are always taken: five around the body, and in the body twelve, or
one if all is done. -/
def fixedRows (review : Review) : Nat := if review.isDone then 6 else 17

/-- The part of a screen between header and status. -/
def bodyOn (width height : Nat) : Area :=
  let inner := (Area.mk 0 0 width height).inset
  inner.rows 1 (inner.height - 3)

/-- The panels in a body, with their titles. -/
def panels (review : Review) (body : Area) : List (Area × Text) :=
  if review.isDone then [(body, "Done".toList)]
  else
    [(body.rows 0 4, "Equation".toList), (body.rows 4 4, "TI-BASIC preview".toList),
      (body.rows 8 3, "Color (".toList ++ review.policy.hint ++ [')'])]

/-- A cell in the frame of a panel or in the bar of the progress. -/
def Outlined (review : Review) (body : Area) (column row : Nat) : Prop :=
  (∃ panel ∈ review.panels body, panel.1.Framed panel.2 column row) ∨
    review.isDone = false ∧ Gauge.Solid (body.rows 11 1) review.session.cursor
      review.session.total review.progressLabel column row

instance (review : Review) (body : Area) (column row : Nat) :
    Decidable (review.Outlined body column row) :=
  inferInstanceAs (Decidable (_ ∨ _))

theorem framed_corner (wide : 3 ≤ width) (tall : review.fixedRows ≤ height) :
    ∃ panel ∈ review.panels (bodyOn width height), panel.1.Framed panel.2 1 2 := by
  unfold fixedRows at tall
  have inner : (Area.mk 0 0 width height).inset = ⟨1, 1, width - 2, height - 2⟩ := by
    refine if_neg ?_
    split at tall <;> simp only <;> omega
  rw [bodyOn, inner, panels]
  cases progress : review.isDone with
  | true =>
      rw [if_pos progress] at tall
      refine ⟨_, List.mem_singleton_self _, ?_⟩
      exact Area.framed_corner _ (Nat.sub_pos_of_lt wide) (by simp only [Area.rows]; omega)
  | false =>
      refine ⟨_, List.mem_cons_self, ?_⟩
      exact Area.framed_corner _ (Nat.sub_pos_of_lt wide) (Nat.succ_pos 3)

section Ascii

variable (ascii : review.look.asciiOnly = true) (typed : review.Typed)

include ascii typed

theorem marked_drawHeader (drawn : canvas.Marked fun _ _ => False) (area : Area) :
    (review.drawHeader area canvas).Marked fun _ _ => False := by
  have heading := List.forall_mem_singleton.mpr (typed_heading ascii typed)
  have counter : ∀ line ∈ [[(⟨review.counter, .strong review.palette.secondaryText⟩ : Span)]],
      Line.Typed line := List.forall_mem_singleton.mpr (Line.typed_single (typed_counter ascii))
  exact (drawn.writeLines heading .left fun _ _ _ => not_false).writeLines counter .right
    fun _ _ _ => not_false

theorem markedAbove_drawCurrent (drawn : canvas.Marked fun _ _ => False) (body : Area)
    {equation : Equation} (listed : equation ∈ review.session.equations)
    (active : review.isDone = false) :
    (review.drawCurrent (review.session.currentView equation) body canvas).canvas.MarkedAbove
      (body.top + 12) (review.Outlined body) := by
  have equationTitle : Text.Typed "Equation".toList := by decide
  have previewTitle : Text.Typed "TI-BASIC preview".toList := by decide
  have colorTitle : Text.Typed ("Color (".toList ++ review.policy.hint ++ [')']) := by
    simp only [Text.typed_append_iff, review.policy.typed_hint]
    decide
  have blank : canvas.MarkedAbove (body.rows 0 4).top fun _ _ => False :=
    ⟨drawn, fun _ _ => False.elim⟩
  -- From top to bottom, each below all that was drawn before.
  have equation := blank.panel (body.rows 0 4) review.palette equationTitle <|
    types_writeWrapped .left (typed_equationLines ascii typed listed)
  have preview := equation.panel (body.rows 4 4) review.palette previewTitle <|
    types_writeLines .left (typed_previewLines typed listed)
  have color := preview.panel (body.rows 8 3) review.palette colorTitle <|
    types_writeLines .left (List.forall_mem_singleton.mpr
      (typed_boxLine ascii typed (body.rows 8 3) review.palette))
  have progress := color.writeGauge (body.rows 11 1) review.palette.primary
    review.palette.panelGround review.session.cursor review.session.total
    review.typed_progressLabel
  refine progress.congr fun column row => ?_
  simp [Outlined, panels, active, or_assoc]

theorem markedAbove_drawSummary (drawn : canvas.Marked fun _ _ => False) (body : Area)
    (done : review.isDone = true) :
    (review.drawSummary body canvas).MarkedAbove (body.top + body.height)
      (review.Outlined body) := by
  have title : Text.Typed "Done".toList := by decide
  have blank : canvas.MarkedAbove body.top fun _ _ => False := ⟨drawn, fun _ _ => False.elim⟩
  have summary := blank.panel body review.palette title <|
    types_writeWrapped .center (typed_summaryLines ascii typed)
  refine summary.congr fun column row => ?_
  simp [Outlined, panels, done]

/-- Status and keys are below all marks. -/
theorem marked_footer {bound : Nat} {marks : Nat → Nat → Prop} {inner : Area}
    (drawn : canvas.MarkedAbove bound marks)
    (room : inner.width = 0 ∨ 2 ≤ inner.height ∧ bound + 2 ≤ inner.top + inner.height) :
    ((canvas.writeLines (inner.rows (inner.height - 2) 1) .left [[review.statusSpan]]).writeLines
      (inner.rows (inner.height - 1) 1) .center [review.keyLine]).Marked marks := by
  have status := List.forall_mem_singleton.mpr (Line.typed_single (typed_statusSpan ascii typed))
  have keys := List.forall_mem_singleton.mpr (typed_keyLine ascii)
  refine (drawn.marked.writeLines status .left (drawn.clear ?_)).writeLines keys .center
    (drawn.clear ?_)
  all_goals
    intro column row inside
    simp only [Area.rows, Area.contains_iff] at inside
    omega

theorem marked_draw (tall : review.fixedRows ≤ height) :
    (review.draw width height).canvas.Marked (review.Outlined (bodyOn width height)) := by
  have sides := Area.inset_cases width height
  have header := marked_drawHeader ascii typed (marked_blank.fill (.mk 0 0 width height)
    { ground? := some review.palette.ground }) ((Area.mk 0 0 width height).inset.rows 0 1)
  simp only [draw, bodyOn]
  generalize (Area.mk 0 0 width height).inset = inner at sides header ⊢
  have room : inner.width = 0 ∨ review.fixedRows ≤ inner.height + 2 := by
    refine sides.imp_right fun whole => ?_
    rw [whole]
    simp only
    omega
  unfold fixedRows at room
  cases progress : review.isDone with
  | true =>
      rw [if_pos progress] at room
      have drawn := markedAbove_drawSummary ascii typed header (inner.rows 1 (inner.height - 3))
        progress
      simp only [Session.view_current_of_isDone progress]
      refine marked_footer ascii typed drawn (room.imp_right fun enough => ?_)
      simp only [Area.rows]
      omega
  | false =>
      rw [if_neg (by simp [progress])] at room
      obtain ⟨equation, listed, current⟩ := Session.exists_current progress
      have drawn := markedAbove_drawCurrent ascii typed header (inner.rows 1 (inner.height - 3))
        listed progress
      simp only [current]
      refine marked_footer ascii typed drawn (room.imp_right fun enough => ?_)
      simp only [Area.rows]
      omega

end Ascii

/-- If all that a review shows is printable ASCII and the look asks for ASCII, the cells of a screen
that are not ASCII are those in the frames of the panels and in the bar of the progress.  The corner
of the first panel is one of them on every screen that has room for it. -/
theorem draw_ascii_iff (ascii : review.look.asciiOnly = true) (typed : review.Typed)
    (tall : review.fixedRows ≤ height) :
    (∀ column row, Text.Ascii ((review.draw width height).canvas.cell column row).symbol ↔
      ¬ review.Outlined (bodyOn width height) column row) ∧
    (3 ≤ width → ¬ Text.Ascii ((review.draw width height).canvas.cell 1 2).symbol) := by
  have marked : (review.draw width height).canvas.Marked (review.Outlined (bodyOn width height)) :=
    marked_draw ascii typed tall
  refine ⟨marked, fun wide => ?_⟩
  rw [marked 1 2, not_not]
  exact .inl (framed_corner wide tall)

/-- Two equations, the first of which has its color: left of the label, the progress has a bar. -/
theorem draw_ascii_iff_half_done :
    let review : Review :=
      { session := ⟨[⟨"x^2".toList, "x<3".toList⟩, ⟨['x'], []⟩], ⟨[some ⟨"RED".toList⟩, none]⟩, 1⟩
        draft := .ofText "blue".toList
        look := { asciiOnly := true }
        source? := some (.ofString "in.txt") }
    ¬ Text.Ascii ((review.draw 40 20).canvas.cell 1 13).symbol ∧
      Text.Ascii ((review.draw 40 20).canvas.cell 12 13).symbol ∧
      ¬ Text.Ascii ((review.draw 40 20).canvas.cell 1 2).symbol := by
  intro review
  have equations : ∀ equation ∈ review.session.equations, equation.Typed :=
    List.forall_mem_cons.mpr ⟨⟨by decide, by decide⟩,
      List.forall_mem_singleton.mpr ⟨by decide, by decide⟩⟩
  have colors : ∀ index color, review.session.assignment.get? index = some color →
      Text.Typed color.token := by
    intro index color found
    rcases index with _ | _ | index
    · obtain rfl := Option.some.inj found
      decide
    · contradiction
    · contradiction
  have source : ∀ path, review.source? = some path → Text.Typed path.text := by
    rintro path ⟨⟩
    decide
  have typed : review.Typed :=
    ⟨equations, colors, by decide, nofun, source, ⟨by decide, by decide, by decide⟩⟩
  obtain ⟨cells, corner⟩ :=
    @draw_ascii_iff review 40 20 rfl typed (by decide +kernel)
  exact ⟨fun plain => (cells 1 13).mp plain (by decide +kernel),
    (cells 12 13).mpr (by decide +kernel), corner (by decide)⟩

/-- The shortest equation on an ordinary screen, in a look of ASCII: panels have round corners. -/
theorem draw_not_ascii :
    let review : Review :=
      { session := .ofEquations [⟨['x'], []⟩], look := { asciiOnly := true } }
    review.look.asciiOnly = true ∧ review.Typed ∧ review.fixedRows ≤ 20 ∧
      ((review.draw 40 20).canvas.cell 1 2).symbol = ['╭'] ∧
      ¬ Text.Ascii ((review.draw 40 20).canvas.cell 1 2).symbol := by
  intro review
  have equations : ∀ equation ∈ review.session.equations, equation.Typed :=
    List.forall_mem_singleton.mpr ⟨by decide, by decide⟩
  have colors : ∀ index color, review.session.assignment.get? index = some color →
      Text.Typed color.token := by
    intro index color found
    simp [review, Session.ofEquations] at found
  have typed : review.Typed :=
    ⟨equations, colors, Text.typed_nil, nofun, nofun, ⟨by decide, by decide, by decide⟩⟩
  have corner : ((review.draw 40 20).canvas.cell 1 2).symbol = ['╭'] := by decide +kernel
  refine ⟨rfl, typed, by decide, corner, ?_⟩
  rw [corner]
  decide

end Review

end GraphPrograms
