/-!
Text as a list of characters, with the few operations on it that every other module needs:
decimal numerals, cutting at a character, and the lines of a file.

Scanners of this library work on such lists, so that their laws are laws about lists.  Strings
appear as literals and at the program's edge only.
-/

namespace GraphPrograms

/-- A piece of text: its characters in reading order. -/
abbrev Text := List Char

namespace Text

/-- The decimal numeral of a number. -/
def ofNat (number : Nat) : Text := Nat.toDigits 10 number

/-- The part before the first `mark` and the part after it; `none` without a mark. -/
def cut? (mark : Char) (text : Text) : Option (Text × Text) :=
  match text.dropWhile (· != mark) with
  | [] => none
  | _ :: rest => some (text.takeWhile (· != mark), rest)

theorem cut?_append {mark : Char} {left : Text} (free : mark ∉ left) (right : Text) :
    cut? mark (left ++ mark :: right) = some (left, right) := by
  have passes : ∀ character ∈ left, (character != mark) = true := by
    intro character member
    simp only [bne_iff_ne, ne_eq]
    rintro rfl
    exact free member
  unfold cut?
  rw [List.dropWhile_append_of_pos passes, List.takeWhile_append_of_pos passes]
  simp

/-- A line without the carriage return that ends it, if one does. -/
def dropReturn (line : Text) : Text :=
  if line.getLast? = some '\r' then line.dropLast else line

/-- The lines of a file.  A line ends at a line feed, which may have one carriage return before
it; text after the last line feed is a line of its own and keeps a final carriage return. -/
def lines (content : Text) : List Text :=
  let pieces := content.splitOn '\n'
  let last := pieces.getLast?.getD []
  pieces.dropLast.map dropReturn ++ (if last.isEmpty then [] else [last])

/-- Lines put one under the other, with a line feed between neighbours. -/
def ofLines (lines : List Text) : Text := ['\n'].intercalate lines

/-- Lines put one under the other, each with its own line feed at the end. -/
def ofEndedLines (lines : List Text) : Text := lines.flatMap (· ++ ['\n'])

/-- Whether `part` occurs somewhere in a text. -/
def contains (part : Text) : Text → Bool
  | [] => part.isEmpty
  | first :: rest => part.isPrefixOf (first :: rest) || contains part rest

theorem contains_iff {part text : Text} : contains part text ↔ part <:+: text := by
  induction text with
  | nil => simp [contains]
  | cons first rest ih =>
      rw [contains, Bool.or_eq_true, ih, List.isPrefixOf_iff_prefix, List.infix_cons_iff]

/-- A text padded with spaces on the left to at least `width` characters. -/
def padLeft (width : Nat) (text : Text) : Text :=
  List.replicate (width - text.length) ' ' ++ text

/-- A text padded with spaces on the right to at least `width` characters. -/
def padRight (width : Nat) (text : Text) : Text :=
  text ++ List.replicate (width - text.length) ' '

end Text

end GraphPrograms
