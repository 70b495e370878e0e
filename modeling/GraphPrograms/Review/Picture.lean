import GraphPrograms.Look.Glyphs
import GraphPrograms.Review.Basic
import GraphPrograms.Review.ColorBox
import GraphPrograms.Screen.Gauge
import GraphPrograms.Screen.Wrap

/-!
What a review looks like.

From top to bottom: a header with the source and a counter; the equation under the cursor, its
instructions, the box for its color and the progress, or a summary when all is done; the status;
the keys.
-/

namespace GraphPrograms

/-- A screen: its cells and where the cursor stands. -/
structure Picture where
  canvas : Canvas
  cursor : Nat × Nat := (0, 0)

namespace Style

/-- The style with only an ink. -/
def ofInk (ink : Tint) : Style := { ink? := some ink }

/-- The style with an ink, in bold. -/
def strong (ink : Tint) : Style := { ink? := some ink, bold := true }

end Style

namespace Review

def palette (review : Review) : Palette := review.look.palette

def glyphs (review : Review) : Glyphs := review.look.glyphs

/-- How far the session is. -/
def counter (review : Review) : Text :=
  let total := Text.ofNat review.session.total
  if review.isDone then review.glyphs.done ++ [' '] ++ total ++ ['/'] ++ total ++ [' ']
  else
    "Equation ".toList ++ Text.ofNat (review.session.cursor + 1) ++ ['/'] ++ total ++ [' ']

/-- The program's name and the source of the equations. -/
def heading (review : Review) : Line :=
  ⟨" ticonv ".toList, .title review.palette⟩ ::
    review.source?.toList.map fun source =>
      ⟨review.glyphs.separator ++ [' '] ++ source.text, .ofInk review.palette.mutedText⟩

def drawHeader (review : Review) (area : Area) (canvas : Canvas) : Canvas :=
  let width := Text.width review.counter
  (canvas.writeLines (area.dropRight width) .left [review.heading]).writeLines
    (area.takeRight width) .right [[⟨review.counter, .strong review.palette.secondaryText⟩]]

/-- The lines about the equation under the cursor. -/
def equationLines (review : Review) (current : CurrentEquation) : List Line :=
  let palette := review.palette
  [[⟨Text.printable current.equation.display, .strong palette.primaryText⟩],
   [⟨"Type: ".toList, .ofInk palette.mutedText⟩,
    ⟨current.kind.label, .strong (palette.ofKind current.kind)⟩] ++
      current.recorded.toList.map fun color =>
        ⟨"  ".toList ++ review.glyphs.colored ++ [' '] ++ Text.printable color.token,
          .ofInk palette.secondaryText⟩]

/-- The instructions for the equation under the cursor. -/
def previewLines (review : Review) (current : CurrentEquation) : List Line :=
  current.preview.lines.map fun line => [⟨Text.printable line, .ofInk review.palette.accent⟩]

def colorBox (review : Review) (area : Area) : ColorBox where
  area := area
  prompt := review.glyphs.prompt
  draft := review.draft

def progressLabel (review : Review) : Text :=
  Text.ofNat review.session.cursor ++ ['/'] ++ Text.ofNat review.session.total ++
    " processed, ".toList ++ Text.ofNat review.session.assignment.assigned ++ " colored".toList

/-- The review of the equation under the cursor. -/
def drawCurrent (review : Review) (current : CurrentEquation) (area : Area) (canvas : Canvas) :
    Picture :=
  let palette := review.palette
  let equation := area.rows 0 4
  let preview := area.rows 4 4
  let box := review.colorBox (area.rows 8 3)
  let progress := area.rows 11 1
  let canvas := (canvas.writePanel equation palette "Equation".toList).writeWrapped
    equation.content .left (review.equationLines current)
  let canvas := (canvas.writePanel preview palette "TI-BASIC preview".toList).writeLines
    preview.content .left (review.previewLines current)
  let title := "Color (".toList ++ review.policy.hint ++ [')']
  let canvas := (canvas.writePanel box.area palette title).writeLines
    box.area.content .left [box.line palette]
  let canvas := canvas.writeGauge progress palette.primary palette.panelGround
    review.session.cursor review.session.total review.progressLabel
  { canvas := canvas, cursor := box.cursor }

/-- The number of programs that would be written. -/
def programCount (review : Review) : Nat := Chunk.countFor review.session.total

/-- The files that would be written: the only one, or the first one and the name of the last. -/
def targets (review : Review) : Text :=
  let first := (review.layout.pathFor 1).text
  if review.programCount = 1 then first
  else first ++ " .. ".toList ++ review.layout.fileName review.programCount

/-- The summary of a review that is done. -/
def summaryLines (review : Review) : List Line :=
  let palette := review.palette
  let glyphs := review.glyphs
  let total := review.session.total
  let assigned := review.session.assignment.assigned
  let uncolored := total - assigned
  let note := fun (text : Text) =>
    [[(⟨glyphs.bullet ++ [' '] ++ text, .ofInk palette.mutedText⟩ : Span)]]
  [[], [⟨glyphs.done ++ " All equations processed!".toList, .strong palette.success⟩], [],
    [⟨Text.ofNat assigned ++ " of ".toList ++ Text.ofNat total ++ " equations colored".toList,
      .ofInk palette.secondaryText⟩]] ++
    (if 0 < uncolored then
      note (Text.ofNat uncolored ++ " without a color will use ".toList ++ Color.fallback.token)
    else []) ++
    (if 0 < review.rejected then
      note (Text.ofNat review.rejected ++ " rejected lines saved".toList)
    else []) ++
    (if 0 < review.programCount then
      [[], [⟨"Ctrl+L".toList, .strong palette.peach⟩,
        ⟨[' '] ++ glyphs.arrow ++ " write ".toList ++ review.targets, .ofInk palette.mutedText⟩]]
    else [])

def drawSummary (review : Review) (area : Area) (canvas : Canvas) : Canvas :=
  (canvas.writePanel area review.palette "Done".toList).writeWrapped area.content .center
    review.summaryLines

/-- What is said before a message of a kind, and its color. -/
def statusLead (palette : Palette) : StatusKind → Text × Tint
  | .error => ("Error: ".toList, palette.error)
  | .warning => ("Warning: ".toList, palette.warning)
  | .success => ([], palette.success)
  | .info => ([], palette.secondaryText)

/-- The status, or where the first program would be written. -/
def statusSpan (review : Review) : Span :=
  match review.status? with
  | some status =>
      let lead := statusLead review.palette status.kind
      ⟨Text.printable ([' '] ++ lead.1 ++ status.text?.getD []), .ofInk lead.2⟩
  | none =>
      ⟨Text.printable ([' '] ++ review.glyphs.bullet ++ " output ".toList ++ review.glyphs.arrow ++
        [' '] ++ (review.layout.pathFor 1).text), .ofInk review.palette.mutedText⟩

/-- The keys and what they do. -/
def keyHints : List (Text × Text) :=
  [("Enter".toList, "submit".toList), ("^N".toList, "skip".toList), ("^B".toList, "back".toList),
    ("^L".toList, "generate".toList), ("Esc".toList, "quit".toList)]

def keyLine (review : Review) : Line :=
  let muted : Style := .ofInk review.palette.mutedText
  let between : Span := ⟨[' '] ++ review.glyphs.separator ++ [' '], muted⟩
  [between].intercalate (keyHints.map fun hint =>
    [⟨hint.1, .strong review.palette.peach⟩, ⟨' ' :: hint.2, muted⟩])

/-- The screen of a given size. -/
def draw (review : Review) (width height : Nat) : Picture :=
  let screen : Area := ⟨0, 0, width, height⟩
  let inner := screen.inset
  let body := inner.rows 1 (inner.height - 3)
  let canvas := Canvas.blank.fill screen { ground? := some review.palette.ground }
  let canvas := review.drawHeader (inner.rows 0 1) canvas
  let picture := match review.session.view.current with
    | some current => review.drawCurrent current body canvas
    | none => { canvas := review.drawSummary body canvas }
  let canvas := picture.canvas.writeLines (inner.rows (inner.height - 2) 1) .left
    [[review.statusSpan]]
  let canvas := canvas.writeLines (inner.rows (inner.height - 1) 1) .center [review.keyLine]
  { picture with canvas := canvas }

end Review

namespace Canvas

/-- The text of a row, in which a symbol covers the cells of its columns. -/
def rowText (canvas : Canvas) (row width : Nat) : Text :=
  go 0 (List.range width)
where
  go (covered : Nat) : List Nat → Text
    | [] => []
    | column :: rest =>
        if 0 < covered then go (covered - 1) rest
        else
          let symbol := (canvas.cell column row).symbol
          symbol ++ go (Text.width symbol - 1) rest

end Canvas

end GraphPrograms
