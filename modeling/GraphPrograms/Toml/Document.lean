import GraphPrograms.Toml.Quoted

/-!
Reading a TOML document.

A document is a row of lines: keys with values, headers of tables, comments.  Arrays and tables in
braces may go over several lines.  A document that breaks a rule anywhere holds nothing.
-/

namespace GraphPrograms.Toml

/-- The text after a comment, which starts at the hash mark and ends before the end of its line. -/
def skipComment (text : Text) : Option Text :=
  let body := text.takeWhile (· != '\n')
  let rest := text.drop body.length
  let line := if rest.isEmpty then body else Text.dropReturn body
  if line.all isLineChar then some (text.drop line.length) else none

/-- The text after the end of a line, before which blanks and a comment may stand. -/
def endLine (text : Text) : Option Text := do
  let rest := text.dropWhile isSpace
  let rest ← if rest.head? = some '#' then skipComment rest else some rest
  if rest.isEmpty then some []
  else if startsWithNewline rest then some (dropNewline rest)
  else none

/-- The text after blanks, line ends and comments; `fuel` bounds the characters read. -/
def skipTrivia : Nat → Text → Option Text
  | 0, text => some text
  | fuel + 1, text =>
      let rest := text.dropWhile isSpace
      if startsWithNewline rest then skipTrivia fuel (dropNewline rest)
      else if rest.head? = some '#' then (skipComment rest).bind (skipTrivia fuel)
      else some rest

def isBareKeyChar (character : Char) : Bool :=
  character.isAlphanum || character == '_' || character == '-'

/-- Reads one key, bare or quoted. -/
def key? (text : Text) : Option (Text × Text) :=
  if (text.head?).any isBareKeyChar then
    some (text.takeWhile isBareKeyChar, text.dropWhile isBareKeyChar)
  else quoted? text

/-- Reads the keys of a dotted key; blanks may stand around the dots. -/
def dottedKey? : Nat → Text → Option (List Text × Text)
  | 0, _ => none
  | fuel + 1, text => do
      let (key, rest) ← key? (text.dropWhile isSpace)
      match rest.dropWhile isSpace with
      | '.' :: rest => do
          let (keys, rest) ← dottedKey? fuel rest
          some (key :: keys, rest)
      | rest => some ([key], rest)

/-- The marks at which an unquoted value ends. -/
def endsUnquoted (character : Char) : Bool :=
  isSpace character || character == '\n' || character == '\r' || character == ',' ||
    character == ']' || character == '}' || character == '#'

/-- Reads an unquoted value.  One space may stand between a day and a time. -/
def unquotedValue? (text : Text) : Option (Value × Text) := do
  let first := text.takeWhile (!endsUnquoted ·)
  let rest := text.drop first.length
  let whole := match day? first, rest with
    | some [], ' ' :: next :: _ =>
        if next.isDigit then first ++ [' '] ++ (rest.drop 1).takeWhile (!endsUnquoted ·) else first
    | _, _ => first
  let value ← unquoted? whole
  some (value, text.drop whole.length)

/-- How deep values may lie in one another. -/
def depthLimit : Nat := 80

mutual

/-- Reads a value; `fuel` bounds the steps and `depth` the values in one another. -/
def value? : Nat → Nat → Text → Option (Value × Text)
  | 0, _, _ => none
  | fuel + 1, depth, text =>
      match text with
      | '[' :: rest =>
          if depth = 0 then none
          else do
            let (items, rest) ← items? fuel (depth - 1) (← skipTrivia rest.length rest)
            some (.array false items, rest)
      | '{' :: rest =>
          if depth = 0 then none
          else do
            let (entries, rest) ← entries? fuel (depth - 1) [] (← skipTrivia rest.length rest)
            some (.table .braces entries, rest)
      | first :: _ =>
          if first = '"' ∨ first = '\'' then
            (quotedValue? text).map fun read => (.text read.1, read.2)
          else unquotedValue? text
      | [] => none

/-- Reads the items of an array up to its bracket. -/
def items? : Nat → Nat → Text → Option (List Value × Text)
  | 0, _, _ => none
  | _, _, ']' :: rest => some ([], rest)
  | fuel + 1, depth, text => do
      let (item, rest) ← value? fuel depth text
      match ← skipTrivia rest.length rest with
      | ',' :: rest => do
          let (items, rest) ← items? fuel depth (← skipTrivia rest.length rest)
          some (item :: items, rest)
      | ']' :: rest => some ([item], rest)
      | _ => none

/-- Reads the entries of a table in braces, after those already read. -/
def entries? : Nat → Nat → Entries → Text → Option (Entries × Text)
  | 0, _, _, _ => none
  | _, _, entries, '}' :: rest => some (entries, rest)
  | fuel + 1, depth, entries, text => do
      let (keys, rest) ← dottedKey? (text.length + 1) text
      let key ← keys.getLast?
      let (value, rest) ← value? fuel depth ((← skip? '=' rest).dropWhile isSpace)
      let entries ← addValue keys.dropLast key value .header entries
      match ← skipTrivia rest.length rest with
      | ',' :: rest => entries? fuel depth entries (← skipTrivia rest.length rest)
      | '}' :: rest => some (entries, rest)
      | _ => none

end

/-- What has been read of a document: its tables, and the header whose lines are read. -/
structure Reading where
  entries : Entries := []
  header : List Text := []

/-- Reads a header, in single or double brackets. -/
def Reading.header? (reading : Reading) (text : Text) : Option (Reading × Text) := do
  let isItem := ['[', '['].isPrefixOf text
  let (keys, rest) ← dottedKey? (text.length + 1) (text.drop (if isItem then 2 else 1))
  let key ← keys.getLast?
  let rest ← skip? ']' rest
  let rest ← if isItem then skip? ']' rest else some rest
  let entries ←
    if isItem then addItem keys.dropLast key reading.entries
    else addTable keys.dropLast key reading.entries
  some (⟨entries, keys⟩, rest)

/-- Reads a key with its value. -/
def Reading.pair? (reading : Reading) (text : Text) : Option (Reading × Text) := do
  let (keys, rest) ← dottedKey? (text.length + 1) text
  let key ← keys.getLast?
  let rest := (← skip? '=' rest).dropWhile isSpace
  let (value, rest) ← value? (2 * rest.length + 4) depthLimit rest
  let entries ← descend false (addValue keys.dropLast key value) reading.header .header
    reading.entries
  some ({ reading with entries := entries }, rest)

/-- Reads line after line; `fuel` bounds their number. -/
def Reading.lines? : Nat → Reading → Text → Option Entries
  | 0, _, _ => none
  | fuel + 1, reading, text =>
      match text.dropWhile isSpace with
      | [] => some reading.entries
      | first :: rest => do
          let (reading, rest) ←
            if first = '#' ∨ startsWithNewline (first :: rest) then some (reading, first :: rest)
            else if first = '[' then reading.header? (first :: rest)
            else reading.pair? (first :: rest)
          reading.lines? fuel (← endLine rest)

/-- The entries of a document, which a byte order mark may precede; none if it breaks a rule. -/
def document? (text : Text) : Option Entries :=
  let body := if text.head? = some '\uFEFF' then text.drop 1 else text
  ({} : Reading).lines? (body.length + 1) body

end GraphPrograms.Toml
