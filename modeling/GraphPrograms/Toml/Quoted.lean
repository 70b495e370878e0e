import GraphPrograms.Toml.Number

/-!
Quoted texts of a TOML document.

Between double quotes a backslash starts an escape; between single quotes every character stands
for itself.  Three quotes hold text of several lines.
-/

namespace GraphPrograms.Toml

/-- The characters that a quoted line may hold. -/
def isLineChar (character : Char) : Bool :=
  character == '\t' || (decide (0x20 ≤ character.toNat) && character.toNat != 0x7F)

def isSpace (character : Char) : Bool := character == ' ' || character == '\t'

/-- Whether the text starts with the end of a line. -/
def startsWithNewline : Text → Bool
  | '\n' :: _ => true
  | '\r' :: '\n' :: _ => true
  | _ => false

/-- The character with a number given in hexadecimal digits. -/
def coded? (digits : Text) : Option Char :=
  let number := numberOf 16 digits
  if digits.all isHexDigit ∧ number.isValidChar then some (Char.ofNat number) else none

/-- The character that a letter after a backslash stands for. -/
def escaped? : Char → Option Char
  | 'b' => some '\x08'
  | 't' => some '\t'
  | 'n' => some '\n'
  | 'f' => some '\x0c'
  | 'r' => some '\r'
  | 'e' => some '\x1b'
  | '"' => some '"'
  | '\\' => some '\\'
  | _ => none

/-- Puts a character in front of what was read, if there is one. -/
def pushChar (character : Option Char) (read : Option (Text × Text)) : Option (Text × Text) := do
  let (value, rest) ← read
  some ((← character) :: value, rest)

/-- Reads a character given by `count` digits and goes on with `next`. -/
def codedEscape (next : Text → Option (Text × Text)) (count : Nat) (text : Text) :
    Option (Text × Text) :=
  if text.length < count then none
  else pushChar (coded? (text.take count)) (next (text.drop count))

/-- Reads the escape after a backslash and goes on with `next`. -/
def escape (next : Text → Option (Text × Text)) : Text → Option (Text × Text)
  | 'x' :: rest => codedEscape next 2 rest
  | 'u' :: rest => codedEscape next 4 rest
  | 'U' :: rest => codedEscape next 8 rest
  | letter :: rest => pushChar (escaped? letter) (next rest)
  | [] => none

/-- Reads up to the closing double quote of a line; `fuel` bounds the characters read. -/
def quotedLine : Nat → Text → Option (Text × Text)
  | 0, _ => none
  | _, [] => none
  | fuel + 1, first :: rest =>
      if first = '"' then some ([], rest)
      else if first = '\\' then escape (quotedLine fuel) rest
      else if isLineChar first then pushChar (some first) (quotedLine fuel rest)
      else none

/-- Reads up to the closing single quote of a line. -/
def literalLine : Text → Option (Text × Text)
  | [] => none
  | first :: rest =>
      if first = '\'' then some ([], rest)
      else if isLineChar first then pushChar (some first) (literalLine rest)
      else none

/-- The quotes that belong to a text of several lines before its three closing ones, if it ends
here: at most two. -/
def closing? (quote : Char) (text : Text) : Option (Text × Text) :=
  let count := (text.takeWhile (· == quote)).length
  if count < 3 then none
  else
    let kept := min (count - 3) 2
    some (List.replicate kept quote, text.drop (kept + 3))

/-- The characters of a text of several lines. -/
def isBlockChar (first : Char) (rest : Text) : Bool :=
  isLineChar first || first == '\n' || (first == '\r' && rest.head? == some '\n')

/-- Reads up to three closing double quotes; `skipping` after a backslash at the end of a line,
up to the next character that is not blank. -/
def quotedBlock : Nat → Bool → Text → Option (Text × Text)
  | 0, _, _ => none
  | _, _, [] => none
  | fuel + 1, skipping, first :: rest =>
      if skipping ∧ (isSpace first ∨ startsWithNewline (first :: rest) ∨ first = '\n') then
        quotedBlock fuel true (if first = '\r' then rest.drop 1 else rest)
      else
        match closing? '"' (first :: rest) with
        | some closed => some closed
        | none =>
            if first = '\\' then
              if startsWithNewline (rest.dropWhile isSpace) then quotedBlock fuel true rest
              else escape (quotedBlock fuel false) rest
            else if isBlockChar first rest then
              pushChar (some first) (quotedBlock fuel false rest)
            else none

/-- Reads up to three closing single quotes. -/
def literalBlock : Text → Option (Text × Text)
  | [] => none
  | first :: rest =>
      match closing? '\'' (first :: rest) with
      | some closed => some closed
      | none =>
          if isBlockChar first rest then pushChar (some first) (literalBlock rest) else none

/-- A text without the line end it starts with, if it does. -/
def dropNewline : Text → Text
  | '\n' :: rest => rest
  | '\r' :: '\n' :: rest => rest
  | text => text

/-- A quoted text of one line. -/
def quoted? : Text → Option (Text × Text)
  | '"' :: rest => quotedLine (rest.length + 1) rest
  | '\'' :: rest => literalLine rest
  | _ => none

/-- A quoted text of one line or several. -/
def quotedValue? (text : Text) : Option (Text × Text) :=
  if ['"', '"', '"'].isPrefixOf text then
    let body := dropNewline (text.drop 3)
    quotedBlock (body.length + 1) false body
  else if ['\'', '\'', '\''].isPrefixOf text then literalBlock (dropNewline (text.drop 3))
  else quoted? text

end GraphPrograms.Toml
