import GraphPrograms.Text.Cluster
import GraphPrograms.Text.Width.Table

/-!
The number of terminal columns a text takes.

Most characters take one column, combining and invisible ones none, East Asian wide ones and
pictures two.  A few sequences take fewer columns than their characters do one by one: pictures
with selectors, skin tones or joiners, and the ligatures of some scripts.  Each of them is
recognised from its end, so a text is read from right to left, and `Beyond` is what a character
has to know about the text on its right.
-/

namespace GraphPrograms.Text

/-- What the text to the right of a character begins with. -/
inductive Beyond where
  | plain
  | lineFeed
  | textSelector
  /-- A selector for the picture form, before a joiner and a picture if `joined`. -/
  | pictureSelector (joined : Bool)
  | picture
  | skinTone
  | joinedPicture
  | joinedKeycap
  | keycapSelector
  | joinedIndicator
  | indicatorPair
  | alef
  | lamed (joined : Bool)
  | coengLetter
  | buginese (joined : Bool)
  | bugineseVowel
  | tifinagh (joined : Bool)
  | tifinaghJoiner
  | lisuTone
  | orkhon (joined : Bool)
  | kiratRaiE
  | kiratRaiAi
deriving DecidableEq, Repr

/-- The columns of a character by itself. -/
def charWidth (code : Nat) : Nat :=
  if code ≤ 0xA0 then 1
  else if code = 0x17D8 then 3
  else if code = 0x17A4 then 2
  else if inRanges zeroWidthRanges code then 0
  else if inRanges doubleWidthRanges code then 2
  else 1

def isIndicator (code : Nat) : Bool := decide (0x1F1E6 ≤ code) && decide (code ≤ 0x1F1FF)

def isSkinTone (code : Nat) : Bool := decide (0x1F3FB ≤ code) && decide (code ≤ 0x1F3FF)

/-- Whether a selector for the picture form applies to the character. -/
def takesPictureSelector (code : Nat) : Bool :=
  inRanges selectableRanges code || (inRanges pictureRanges code && !isSkinTone code)

/-- The Arabic letters that join with a following alef. -/
def lamRanges : List (Nat × Nat) :=
  [(0x644, 0x644), (0x6B5, 0x6B8), (0x76A, 0x76A), (0x8A6, 0x8A6), (0x8C7, 0x8C7)]

def alefRanges : List (Nat × Nat) :=
  [(0x622, 0x623), (0x625, 0x625), (0x627, 0x627), (0x671, 0x673), (0x675, 0x675),
   (0x773, 0x774), (0x870, 0x882)]

/-- The Khmer letters that a coeng sign makes subscripts of. -/
def coengLetterRanges : List (Nat × Nat) :=
  [(0x1780, 0x1782), (0x1784, 0x1787), (0x1789, 0x178C), (0x178E, 0x1793), (0x1795, 0x1798),
   (0x179B, 0x179D), (0x17A0, 0x17A0), (0x17A2, 0x17A2), (0x17A7, 0x17A7), (0x17AB, 0x17AC),
   (0x17AF, 0x17AF)]

def tifinaghRanges : List (Nat × Nat) := [(0x2D31, 0x2D65), (0x2D6F, 0x2D6F)]

/-- What a character begins for the text on its left, whatever stands on its right. -/
def Beyond.ofCode (code : Nat) : Beyond :=
  if code = 0xFE0E then .textSelector
  else if code = 0xFE0F then .pictureSelector false
  else if isSkinTone code then .skinTone
  else if inRanges pictureRanges code then .picture
  else if inRanges alefRanges code then .alef
  else if code = 0x5DC then .lamed false
  else if inRanges coengLetterRanges code then .coengLetter
  else if code = 0x1A10 then .buginese false
  else if inRanges tifinaghRanges code then .tifinagh false
  else if code = 0xA4FC ∨ code = 0xA4FD then .lisuTone
  else if code = 0x10C03 then .orkhon false
  else if code = 0x16D67 then .kiratRaiE
  else if code = 0x16D68 then .kiratRaiAi
  else .plain

/-- The characters that do not part the letters of a ligature. -/
def isLigatureTransparent (code : Nat) : Bool :=
  inRanges [(0x34F, 0x34F), (0x17B4, 0x17B5), (0x180B, 0x180D), (0x180F, 0x180F),
    (0xFE00, 0xFE0D), (0xE0100, 0xE01EF)] code

/-- The state after a joiner, if the text on its right can be joined. -/
def Beyond.afterJoiner? : Beyond → Option Beyond
  | .picture | .skinTone => some .joinedPicture
  | .lamed _ => some (.lamed true)
  | .buginese _ => some (.buginese true)
  | .tifinagh _ => some (.tifinagh true)
  | .orkhon _ => some (.orkhon true)
  | _ => none

/-- The columns that a character adds to a sequence begun on its right; `none` if it does not
belong to one. -/
def ligature? (code : Nat) : Beyond → Option (Int × Beyond)
  | .textSelector => if inRanges textualRanges code then some (1, .plain) else none
  | .pictureSelector joined =>
      if takesPictureSelector code then some (if joined then 0 else 2, .picture) else none
  | .skinTone => if inRanges modifiableRanges code then some (0, .picture) else none
  | .joinedPicture =>
      if code = 0x20E3 then some (0, .joinedKeycap)
      else if isIndicator code then some (1, .joinedIndicator)
      else if isSkinTone code then some (0, .skinTone)
      else if inRanges pictureRanges code then some (0, .picture)
      else none
  | .keycapSelector =>
      if code < 0x80 ∧ inRanges selectableRanges code then some (0, .picture) else none
  | .joinedIndicator => if isIndicator code then some (-1, .indicatorPair) else none
  | .indicatorPair => if isIndicator code then some (3, .joinedIndicator) else none
  | .alef =>
      if inRanges lamRanges code then some (0, .plain)
      else if code ≠ 0x200C ∧ code ≠ 0x200D ∧ charWidth code = 0 then some (0, .alef)
      else none
  | .lamed true => if code = 0x5D0 then some (0, .plain) else none
  | .coengLetter => if code = 0x17D2 then some (-1, .plain) else none
  | .buginese true => if code = 0x1A17 then some (0, .bugineseVowel) else none
  | .bugineseVowel => if code = 0x1A15 then some (0, .plain) else none
  | .tifinagh joined =>
      if code = 0x2D7F then some (1, .tifinaghJoiner)
      else if joined ∧ inRanges tifinaghRanges code then some (0, .plain)
      else none
  | .tifinaghJoiner => if inRanges tifinaghRanges code then some (-1, .plain) else none
  | .lisuTone => if 0xA4F8 ≤ code ∧ code ≤ 0xA4FB then some (0, .plain) else none
  | .orkhon true => if code = 0x10C32 then some (0, .plain) else none
  | .kiratRaiE =>
      if code = 0x16D63 ∨ code = 0x16D69 then some (0, .plain)
      else if code = 0x16D67 then some (0, .kiratRaiAi)
      else none
  | .kiratRaiAi => if code = 0x16D63 then some (0, .plain) else none
  | _ => none

/-- The columns a character adds in front of a text, and what the longer text begins with. -/
def widthStep (character : Char) (beyond : Beyond) : Int × Beyond :=
  let code := character.toNat
  if code = 0xA then (1, .lineFeed)
  else if code = 0xD ∧ beyond = .lineFeed then (0, .plain)
  else if code = 0xFE0F then
    match beyond with
    | .joinedPicture => (0, .pictureSelector true)
    | .joinedKeycap => (0, .keycapSelector)
    | _ => (0, .pictureSelector false)
  else if code = 0xFE0E then (0, .textSelector)
  else
    match ligature? code beyond with
    | some step => step
    | none =>
        if code ≤ 0xA0 then (1, .plain)
        else if code = 0x200D then (0, beyond.afterJoiner?.getD .plain)
        else if isLigatureTransparent code then (0, beyond)
        else (charWidth code, .ofCode code)

/-- The columns of a text, read from its end, and what the text begins with. -/
def measure : Text → Int × Beyond
  | [] => (0, .plain)
  | first :: rest =>
      let right := measure rest
      let step := widthStep first right.2
      (right.1 + step.1, step.2)

/-- The number of terminal columns of a text. -/
def width (text : Text) : Nat := (measure text).1.toNat

end GraphPrograms.Text
