import GraphPrograms.Text.Basic

/-!
Blank characters (the property White_Space), trimming, and the words of a text.

Trimming drops every blank at the ends and keeps the blanks inside; the words of a text are its
maximal runs without a blank.
-/

namespace GraphPrograms.Text

/-- Whether a code point lies in one of the ranges, whose bounds both belong to them. -/
def inRanges (ranges : List (Nat × Nat)) (code : Nat) : Bool :=
  ranges.any fun range => decide (range.1 ≤ code) && decide (code ≤ range.2)

/-- The characters with the property White_Space, by code point. -/
def blankRanges : List (Nat × Nat) :=
  [(0x9, 0xD), (0x20, 0x20), (0x85, 0x85), (0xA0, 0xA0), (0x1680, 0x1680), (0x2000, 0x200A),
   (0x2028, 0x2029), (0x202F, 0x202F), (0x205F, 0x205F), (0x3000, 0x3000)]

def isBlank (character : Char) : Bool := inRanges blankRanges character.toNat

/-- A text of blanks only, the empty text among them. -/
def isAllBlank (text : Text) : Bool := text.all isBlank

def trimStart (text : Text) : Text := text.dropWhile isBlank

def trimEnd (text : Text) : Text := (text.reverse.dropWhile isBlank).reverse

/-- A text without the blanks at its ends. -/
def trim (text : Text) : Text := trimEnd (trimStart text)

/-- The maximal runs of characters that are not blank, in order. -/
def words (text : Text) : List Text := (text.splitOnP isBlank).filter (!·.isEmpty)

/-- The words of a text with one space between neighbours. -/
def compact (text : Text) : Text := [' '].intercalate (words text)

end GraphPrograms.Text
