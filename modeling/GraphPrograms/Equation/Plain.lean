import GraphPrograms.Text.Blank

/-!
Plain spelling of equations that come in typeset notation.

Three passes and a clean-up make a line plain: signs and commands are spelled out, brace groups
after `^`, `_` and `sqrt` become parentheses, the backslashes that are left go, and blanks are
made single spaces.  All other braces stay, for they hold constraints.
-/

namespace GraphPrograms.Plain

/-- The signs and commands with their plain spelling.  A command stands before every command that
it extends, so the first entry that fits is the longest. -/
def spellings : List (Text × Text) :=
  [("≤".toList, "<=".toList), ("≥".toList, ">=".toList), ("≠".toList, "!=".toList),
   ("≈".toList, "~=".toList), ("≃".toList, "~=".toList), ("→".toList, "->".toList),
   ("∞".toList, "infinity".toList), ("π".toList, "pi".toList), ("∑".toList, "sum".toList),
   ("−".toList, "-".toList), ("×".toList, "*".toList), ("÷".toList, "/".toList),
   ("°".toList, " deg".toList), ("∫".toList, "int".toList), ("√".toList, "sqrt".toList),
   ("\\left".toList, []), ("\\right".toList, []),
   (['\\', '{'], ['{']), (['\\', '}'], ['}']),
   ("\\leq".toList, "<=".toList), ("\\le".toList, "<=".toList),
   ("\\geq".toList, ">=".toList), ("\\ge".toList, ">=".toList),
   ("\\lt".toList, "<".toList), ("\\gt".toList, ">".toList),
   ("\\neq".toList, "!=".toList), ("\\ne".toList, "!=".toList),
   ("\\cdot".toList, "*".toList), ("\\times".toList, "*".toList), ("\\div".toList, "/".toList),
   ("\\pi".toList, "pi".toList), ("\\infty".toList, "infinity".toList),
   ("\\sqrt".toList, "sqrt".toList), ("\\sin".toList, "sin".toList),
   ("\\cos".toList, "cos".toList), ("\\tan".toList, "tan".toList),
   ("\\ln".toList, "ln".toList), ("\\log".toList, "log".toList),
   ("\\,".toList, " ".toList), ("\\ ".toList, " ".toList)]

/-- The entry whose sign or command a text starts with. -/
def spelling? (text : Text) : Option (Text × Text) :=
  spellings.find? fun entry => entry.1.isPrefixOf text

/-- A text with its signs and commands spelled out, from left to right. -/
def spellOut : Text → Text
  | [] => []
  | first :: rest =>
      match spelling? (first :: rest) with
      | some entry => entry.2 ++ spellOut (rest.drop (entry.1.length - 1))
      | none => first :: spellOut rest
termination_by text => text.length
decreasing_by
  · simp only [List.length_drop, List.length_cons]
    omega
  · simp

/-- Whether a brace after the text, given from its end, opens a group. -/
def opensGroup : Text → Bool
  | '^' :: _ => true
  | '_' :: _ => true
  | 't' :: 'r' :: 'q' :: 's' :: _ => true
  | _ => false

/-- Makes the braces of groups parentheses.  `before` is the text already made, from its end;
`groups` says of every open brace, innermost first, whether it opened a group. -/
def parenthesizeAfter : Text → List Bool → Text → Text
  | _, _, [] => []
  | before, groups, first :: rest =>
      if first = '{' then
        let isGroup := opensGroup before
        let mark := if isGroup then '(' else '{'
        mark :: parenthesizeAfter (mark :: before) (isGroup :: groups) rest
      else if first = '}' then
        let mark := if groups.headD false then ')' else '}'
        mark :: parenthesizeAfter (mark :: before) groups.tail rest
      else first :: parenthesizeAfter (first :: before) groups rest

def parenthesize (text : Text) : Text := parenthesizeAfter [] [] text

/-- The plain spelling of a line. -/
def ofLine (line : Text) : Text :=
  Text.compact ((parenthesize (spellOut line)).filter (· != '\\'))

end GraphPrograms.Plain
