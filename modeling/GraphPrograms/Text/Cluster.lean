import GraphPrograms.Text.Blank
import GraphPrograms.Text.Cluster.Table

/-!
Grapheme clusters: the pieces of a text that a reader takes for one character.

Whether a cluster goes on is decided by its next character and by what it holds already: its last
character, a pictograph that a joiner has reopened, a conjunct that a linker has reopened, and
whether its regional indicators are odd in number.  Nothing before the cluster matters, so
`clusters` reads one cluster after the other.
-/

namespace GraphPrograms.Text

/-- What a character does at the seam between two clusters. -/
inductive Joining where
  | other
  | carriageReturn
  | lineFeed
  | control
  | extend
  | linker
  | nonJoiner
  | joiner
  | spacing
  | prepend
  | pictograph
  | indicator
  | leading
  | vowel
  | trailing
  | syllable
  | closedSyllable
  | consonant
deriving DecidableEq, Repr

/-- The vowels among the jamo and the letters that join like them. -/
def vowelRanges : List (Nat × Nat) :=
  [(0x1160, 0x11A7), (0xD7B0, 0xD7C6), (0x16D63, 0x16D63), (0x16D67, 0x16D6A)]

/-- The behaviour of a character that is not ASCII. -/
def wideJoining (code : Nat) : Joining :=
  if 0xAC00 ≤ code ∧ code ≤ 0xD7A3 then
    if (code - 0xAC00) % 28 = 0 then .syllable else .closedSyllable
  else if code = 0x200C then .nonJoiner
  else if code = 0x200D then .joiner
  else if 0x1F1E6 ≤ code ∧ code ≤ 0x1F1FF then .indicator
  else if inRanges [(0x1100, 0x115F), (0xA960, 0xA97C)] code then .leading
  else if inRanges vowelRanges code then .vowel
  else if inRanges [(0x11A8, 0x11FF), (0xD7CB, 0xD7FB)] code then .trailing
  else if inRanges linkerRanges code then .linker
  else if inRanges extendRanges code then .extend
  else if inRanges spacingRanges code then .spacing
  else if inRanges pictographRanges code then .pictograph
  else if inRanges consonantRanges code then .consonant
  else if inRanges prependRanges code then .prepend
  else if inRanges controlRanges code then .control
  else .other

def joining (character : Char) : Joining :=
  let code := character.toNat
  if code = 0xD then .carriageReturn
  else if code = 0xA then .lineFeed
  else if code < 0x20 ∨ code = 0x7F then .control
  else if code < 0x80 then .other
  else wideJoining code

/-- How far a cluster has come towards a sequence of pictographs. -/
inductive PictographTail where
  | absent
  | seen
  | reopened
deriving DecidableEq, Repr

/-- How far a cluster has come towards a conjunct of consonants. -/
inductive ConjunctTail where
  | absent
  | seen
  | reopened
deriving DecidableEq, Repr

/-- What a cluster says about the character after it. -/
structure Seam where
  last : Joining
  pictograph : PictographTail
  conjunct : ConjunctTail
  oddIndicators : Bool
deriving DecidableEq, Repr

namespace Seam

/-- The pictograph tail after one more character. -/
def nextPictograph (tail : PictographTail) : Joining → PictographTail
  | .pictograph => .seen
  | .extend | .linker | .nonJoiner => if tail = .seen then .seen else .absent
  | .joiner => if tail = .seen then .reopened else .absent
  | _ => .absent

/-- The conjunct tail after one more character. -/
def nextConjunct (tail : ConjunctTail) : Joining → ConjunctTail
  | .consonant => .seen
  | .linker => if tail = .absent then .absent else .reopened
  | .extend | .joiner => tail
  | _ => .absent

/-- The seam after a first character. -/
def start (first : Joining) : Seam where
  last := first
  pictograph := nextPictograph .absent first
  conjunct := nextConjunct .absent first
  oddIndicators := first == .indicator

/-- The seam after one more character. -/
def push (seam : Seam) (next : Joining) : Seam where
  last := next
  pictograph := nextPictograph seam.pictograph next
  conjunct := nextConjunct seam.conjunct next
  oddIndicators := next == .indicator && !seam.oddIndicators

/-- Whether the next character belongs to the cluster. -/
def joins (seam : Seam) (next : Joining) : Bool :=
  match seam.last, next with
  | .carriageReturn, .lineFeed => true
  | .carriageReturn, _ | .lineFeed, _ | .control, _ => false
  | _, .carriageReturn | _, .lineFeed | _, .control => false
  | .leading, .leading | .leading, .vowel | .leading, .syllable | .leading, .closedSyllable => true
  | .syllable, .vowel | .syllable, .trailing | .vowel, .vowel | .vowel, .trailing => true
  | .closedSyllable, .trailing | .trailing, .trailing => true
  | _, .extend | _, .linker | _, .nonJoiner | _, .joiner | _, .spacing => true
  | .prepend, _ => true
  | _, .consonant => seam.conjunct == .reopened
  | _, .pictograph => seam.pictograph == .reopened
  | .indicator, .indicator => seam.oddIndicators
  | _, _ => false

end Seam

/-- The characters that continue a cluster, and the rest of the text. -/
def clusterTail : Seam → Text → Text × Text
  | _, [] => ([], [])
  | seam, next :: rest =>
      if seam.joins (joining next) then
        let parts := clusterTail (seam.push (joining next)) rest
        (next :: parts.1, parts.2)
      else ([], next :: rest)

theorem clusterTail_append (seam : Seam) (text : Text) :
    (clusterTail seam text).1 ++ (clusterTail seam text).2 = text := by
  induction text generalizing seam with
  | nil => rfl
  | cons next rest ih =>
      rw [clusterTail]
      split
      · simp [ih]
      · rfl

theorem length_clusterTail_le (seam : Seam) (text : Text) :
    (clusterTail seam text).2.length ≤ text.length := by
  have whole := congrArg List.length (clusterTail_append seam text)
  rw [List.length_append] at whole
  omega

/-- The grapheme clusters of a text, in order. -/
def clusters : Text → List Text
  | [] => []
  | first :: rest =>
      let parts := clusterTail (Seam.start (joining first)) rest
      (first :: parts.1) :: clusters parts.2
termination_by text => text.length
decreasing_by
  have shorter := length_clusterTail_le (Seam.start (joining first)) rest
  simp only [List.length_cons]
  omega

@[simp] theorem clusters_nil : clusters [] = [] := by rw [clusters]

theorem clusters_cons (first : Char) (rest : Text) :
    clusters (first :: rest) =
      (first :: (clusterTail (Seam.start (joining first)) rest).1) ::
        clusters (clusterTail (Seam.start (joining first)) rest).2 := by
  rw [clusters]

/-- The clusters of a text, put together, are the text. -/
@[simp] theorem flatten_clusters (text : Text) : (clusters text).flatten = text := by
  fun_induction clusters text with
  | case1 => rfl
  | case2 first rest parts ih =>
      rw [List.flatten_cons, ih]
      exact congrArg (first :: ·) (clusterTail_append _ rest)

theorem ne_nil_of_mem_clusters {text cluster : Text} (member : cluster ∈ clusters text) :
    cluster ≠ [] := by
  fun_induction clusters text with
  | case1 => simp at member
  | case2 first rest parts ih =>
      rcases List.mem_cons.mp member with rfl | member
      · simp
      · exact ih member

end GraphPrograms.Text
