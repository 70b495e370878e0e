import GraphPrograms.Proofs.Equation.Chains
import GraphPrograms.Proofs.Equation.Plain

/-!
Bounded equations in every spelling.

The braces of a bound are plain or commands, its two order signs are spelled in four ways, its
minuses are long or short, and blanks stand between all of them as one likes.  Every such line is
spelled out to the same plain one, up to blanks, and comes to the calculator as one equation.
-/

namespace GraphPrograms

theorem isBlank_deviceLetter (character : Char) :
    Text.isBlank (deviceLetter character) = Text.isBlank character := by
  unfold deviceLetter
  split
  · rename_i lower
    subst lower
    decide
  · split
    · rename_i lower
      subst lower
      decide
    · rfl

/-- Renaming the variables and closing up the blanks go in either order. -/
theorem deviceLetters_compact (text : Text) :
    deviceLetters (Text.compact text) = Text.compact (deviceLetters text) := by
  induction text with
  | nil => rfl
  | cons first rest ih =>
      have renamed : deviceLetters (first :: rest) = deviceLetter first :: deviceLetters rest := rfl
      have blank := isBlank_deviceLetter first
      cases visible : Text.isBlank first with
      | true =>
          rw [visible] at blank
          rw [renamed, Text.compact_cons_blank visible, Text.compact_cons_blank blank, ih]
      | false =>
          have space : deviceLetters (Text.spaceBefore rest) =
              Text.spaceBefore (deviceLetters rest) := by
            have starts : (deviceLetters rest).head?.any Text.isBlank =
                rest.head?.any Text.isBlank := by
              cases rest with
              | nil => rfl
              | cons next later => exact isBlank_deviceLetter next
            have empty : deviceLetters (Text.compact rest) = [] ↔ Text.compact rest = [] :=
              List.map_eq_nil_iff
            simp only [Text.spaceBefore, starts, ← ih, ne_eq, empty]
            split <;> rfl
          rw [visible] at blank
          rw [renamed, Text.compact_cons visible, Text.compact_cons blank, ← ih, ← space]
          exact congrArg (deviceLetter first :: ·) List.map_append

theorem Text.Padded.deviceLetters {text part : Text} (padded : Padded text part) :
    Padded (deviceLetters text) (deviceLetters part) := by
  have renamed : ∀ {blanks : Text}, (∀ character ∈ blanks, isBlank character = true) →
      ∀ character ∈ GraphPrograms.deviceLetters blanks, isBlank character = true := by
    intro blanks blank character inside
    obtain ⟨letter, member, rfl⟩ := List.mem_map.mp inside
    rw [isBlank_deviceLetter]
    exact blank letter member
  obtain ⟨blankBefore, blankAfter⟩ := padded
  simp only [GraphPrograms.deviceLetters, List.map_append]
  exact .around (renamed blankBefore) (renamed blankAfter)

namespace Plain

/-- How a brace is written. -/
inductive BraceStyle where
  | plain
  | escaped
  | stretched

namespace BraceStyle

def opening : BraceStyle → Text
  | plain => ['{']
  | escaped => ['\\', '{']
  | stretched => ['\\', 'l', 'e', 'f', 't', '\\', '{']

def closing : BraceStyle → Text
  | plain => ['}']
  | escaped => ['\\', '}']
  | stretched => ['\\', 'r', 'i', 'g', 'h', 't', '\\', '}']

end BraceStyle

/-- How the order sign is written. -/
inductive OrderStyle where
  | ascii
  | sign
  | command
  | longCommand

def OrderStyle.text : OrderStyle → Text
  | ascii => ['<', '=']
  | sign => ['≤']
  | command => ['\\', 'l', 'e']
  | longCommand => ['\\', 'l', 'e', 'q']

/-- A numeral as it is written: its minus may be the long one. -/
structure Bound where
  numeral : Text
  proper : Chain.Numeral numeral
  longMinus : Bool

def Bound.text (bound : Bound) : Text :=
  match bound.longMinus, bound.numeral with
  | true, '-' :: digits => '−' :: digits
  | _, numeral => numeral

inductive Variable where
  | x
  | y

namespace Variable

def text : Variable → Text
  | x => ['x']
  | y => ['y']

def deviceLetter : Variable → Char
  | x => 'X'
  | y => 'Y'

end Variable

abbrev Blanks := { blanks : Text // ∀ character ∈ blanks, Text.isBlank character = true }

/-- A part of a line with the blanks around it. -/
structure Spaced (Part : Type) where
  before : Blanks
  part : Part
  after : Blanks

def Spaced.text {Part : Type} (spaced : Spaced Part) (write : Part → Text) : Text :=
  spaced.before ++ write spaced.part ++ spaced.after

/-- What a line with a bounded equation is made of. -/
structure BoundedLine where
  expression : Text
  visible : Text.trim expression ≠ []
  unmarked : Unmarked expression
  braceless : '{' ∉ expression
  opening : BraceStyle
  low : Spaced Bound
  lowOrder : OrderStyle
  middle : Spaced Variable
  highOrder : OrderStyle
  high : Spaced Bound
  closing : BraceStyle

namespace BoundedLine

def text (line : BoundedLine) : Text :=
  ['y', ' ', '=', ' '] ++ line.expression ++ [' '] ++ line.opening.opening ++
    line.low.text Bound.text ++ line.lowOrder.text ++ line.middle.text Variable.text ++
    line.highOrder.text ++ line.high.text Bound.text ++ line.closing.closing

/-- What the braces enclose once it is spelled out. -/
def constraint (line : BoundedLine) : Text :=
  line.low.text Bound.numeral ++ '<' :: '=' ::
    (line.middle.text Variable.text ++ '<' :: '=' :: line.high.text Bound.numeral)

def plainText (line : BoundedLine) : Text :=
  ['y', ' ', '=', ' '] ++ line.expression ++ ' ' :: '{' :: (line.constraint ++ ['}'])

end BoundedLine

variable {mark : Char} {text : Text}

theorem BraceStyle.spellOut_opening (style : BraceStyle) (rest : Text) :
    spellOut (style.opening ++ rest) = '{' :: spellOut rest := by
  have escape := @spellOut_of_spelling? ['\\', '{'] ['{'] rest rfl
  cases style with
  | plain => exact @spellOut_append ['{'] (by decide) rest
  | escaped => exact escape
  | stretched =>
      have stretch := @spellOut_of_spelling? ['\\', 'l', 'e', 'f', 't'] []
        (['\\', '{'] ++ rest) rfl
      exact stretch.trans escape

theorem BraceStyle.spellOut_closing (style : BraceStyle) (rest : Text) :
    spellOut (style.closing ++ rest) = '}' :: spellOut rest := by
  have escape := @spellOut_of_spelling? ['\\', '}'] ['}'] rest rfl
  cases style with
  | plain => exact @spellOut_append ['}'] (by decide) rest
  | escaped => exact escape
  | stretched =>
      have stretch := @spellOut_of_spelling? ['\\', 'r', 'i', 'g', 'h', 't'] []
        (['\\', '}'] ++ rest) rfl
      exact stretch.trans escape

/-- The short command is found if what follows does not make it a longer one. -/
theorem OrderStyle.spellOut_text (style : OrderStyle) (something : text ≠ [])
    (shorter : 'q' ∉ text ∧ 'f' ∉ text) (rest : Text) :
    spellOut (style.text ++ (text ++ rest)) = '<' :: '=' :: spellOut (text ++ rest) := by
  cases style with
  | ascii => exact @spellOut_append ['<', '='] (by decide) _
  | sign => exact @spellOut_of_spelling? ['≤'] ['<', '='] _ rfl
  | longCommand => exact @spellOut_of_spelling? ['\\', 'l', 'e', 'q'] ['<', '='] _ rfl
  | command =>
      obtain ⟨next, later, rfl⟩ := List.exists_cons_of_ne_nil something
      obtain ⟨notQ, notF⟩ := shorter
      rw [List.mem_cons, not_or] at notQ notF
      have found : spelling? (['\\', 'l', 'e'] ++ (next :: later ++ rest)) =
          some (['\\', 'l', 'e'], ['<', '=']) := by
        simp [spelling?, spellings, notQ.1, notF.1]
      exact spellOut_of_spelling? found

theorem unmarked_numeral (numeral : Chain.Numeral text) : Unmarked text := by
  have others : ∀ mark ∈ '\\' :: signs, mark.isDigit = false ∧ mark ∉ "+-.".toList :=
    List.forall_iff_forall_mem.mp (by decide)
  refine unmarked_iff.mpr fun mark listed => ?_
  obtain ⟨notDigit, notMark⟩ := others mark listed
  exact numeral.not_mem notDigit notMark

theorem Variable.unmarked_text (which : Variable) : Unmarked which.text := by
  cases which <;> decide

namespace Bound

variable (bound : Bound)

theorem spellOut_text (rest : Text) :
    spellOut (bound.text ++ rest) = bound.numeral ++ spellOut rest := by
  obtain ⟨numeral, proper, longMinus⟩ := bound
  have unmarked := unmarked_numeral proper
  unfold text
  split
  · rename_i digits long minus
    obtain rfl : numeral = '-' :: digits := minus
    have unmarkedDigits : Unmarked digits :=
      ⟨List.not_mem_of_not_mem_cons unmarked.backslash, fun sign listed =>
        List.not_mem_of_not_mem_cons (unmarked.sign sign listed)⟩
    have shortened := @spellOut_of_spelling? ['−'] ['-'] (digits ++ rest) rfl
    rw [spellOut_append unmarkedDigits] at shortened
    exact shortened
  · exact spellOut_append unmarked rest

theorem mem_text (inside : mark ∈ bound.text) : mark = '−' ∨ mark ∈ bound.numeral := by
  obtain ⟨numeral, proper, longMinus⟩ := bound
  unfold text at inside
  split at inside
  · rename_i digits long minus
    exact (List.mem_cons.mp inside).imp_right fun digit => minus ▸ List.mem_cons_of_mem _ digit
  · exact .inr inside

theorem text_ne_nil : bound.text ≠ [] := by
  obtain ⟨numeral, proper, longMinus⟩ := bound
  unfold text
  split
  · exact List.cons_ne_nil _ _
  · intro empty
    obtain rfl : numeral = [] := empty
    exact absurd proper.isNumeral (by decide)

end Bound

namespace Spaced

variable {Part : Type} (spaced : Spaced Part) (write : Part → Text)

theorem padded : Text.Padded (write spaced.part) (spaced.text write) :=
  .around spaced.before.2 spaced.after.2

theorem spellOut_text {plain : Part → Text}
    (spelled : ∀ rest, spellOut (write spaced.part ++ rest) = plain spaced.part ++ spellOut rest)
    (rest : Text) : spellOut (spaced.text write ++ rest) = spaced.text plain ++ spellOut rest := by
  simp only [text, List.append_assoc, spellOut_append (unmarked_of_blank spaced.before.2),
    spellOut_append (unmarked_of_blank spaced.after.2), spelled]

theorem text_ne_nil (something : write spaced.part ≠ []) : spaced.text write ≠ [] := by
  simp [text, something]

theorem not_mem_numeral (spaced : Spaced Bound) (visible : Text.isBlank mark = false)
    (notDigit : mark.isDigit = false) (notMark : mark ∉ "+-.".toList) :
    mark ∉ spaced.text Bound.numeral :=
  (spaced.padded _).not_mem visible (spaced.part.proper.not_mem notDigit notMark)

theorem not_mem_variable (spaced : Spaced Variable) (visible : Text.isBlank mark = false)
    (notVariable : mark ∉ "xy".toList) : mark ∉ spaced.text Variable.text := by
  refine (spaced.padded _).not_mem visible fun inside => ?_
  have listed : spaced.part.text ⊆ "xy".toList := by cases spaced.part <;> decide
  exact notVariable (listed inside)

end Spaced

namespace BoundedLine

variable (line : BoundedLine)

/-- No command that is written before a variable or a bound gets longer by it. -/
theorem ends_commands : ∀ letter ∈ ['q', 'f'],
    letter ∉ line.middle.text Variable.text ∧ letter ∉ line.high.text Bound.text := by
  intro letter listed
  have others : ∀ letter ∈ ['q', 'f'], Text.isBlank letter = false ∧ letter.isDigit = false ∧
      letter ∉ "+-.".toList ∧ letter ≠ '−' ∧ letter ∉ "xy".toList :=
    List.forall_iff_forall_mem.mp (by decide)
  obtain ⟨visible, notDigit, notMark, notMinus, notVariable⟩ := others letter listed
  refine ⟨line.middle.not_mem_variable visible notVariable, ?_⟩
  refine (line.high.padded _).not_mem visible fun inside => ?_
  rcases line.high.part.mem_text inside with minus | digit
  · exact notMinus minus
  · exact line.high.part.proper.not_mem notDigit notMark digit

theorem spellOut_text : spellOut line.text = line.plainText := by
  have head : Unmarked (['y', ' ', '=', ' '] ++ line.expression ++ [' ']) :=
    (Unmarked.append (by decide) line.unmarked).append (by decide)
  obtain ⟨middleQ, highQ⟩ := line.ends_commands 'q' (by decide)
  obtain ⟨middleF, highF⟩ := line.ends_commands 'f' (by decide)
  have middleNonempty : line.middle.text Variable.text ≠ [] :=
    line.middle.text_ne_nil _ (by cases line.middle.part <;> decide)
  have highNonempty : line.high.text Bound.text ≠ [] :=
    line.high.text_ne_nil _ line.high.part.text_ne_nil
  have written : line.text = (['y', ' ', '=', ' '] ++ line.expression ++ [' ']) ++
      (line.opening.opening ++ (line.low.text Bound.text ++ (line.lowOrder.text ++
        (line.middle.text Variable.text ++ (line.highOrder.text ++
          (line.high.text Bound.text ++ (line.closing.closing ++ []))))))) := by
    rw [text, List.append_nil]
    simp only [List.append_assoc]
  rw [written, spellOut_append head, BraceStyle.spellOut_opening,
    line.low.spellOut_text _ line.low.part.spellOut_text,
    OrderStyle.spellOut_text _ middleNonempty ⟨middleQ, middleF⟩,
    line.middle.spellOut_text _ (spellOut_append line.middle.part.unmarked_text),
    OrderStyle.spellOut_text _ highNonempty ⟨highQ, highF⟩,
    line.high.spellOut_text _ line.high.part.spellOut_text, BraceStyle.spellOut_closing, spellOut]
  simp [plainText, constraint]

theorem not_mem_constraint : ∀ mark ∈ ['\\', '{', '}'], mark ∉ line.constraint := by
  intro mark listed
  have others : ∀ mark ∈ ['\\', '{', '}'], Text.isBlank mark = false ∧ mark.isDigit = false ∧
      mark ∉ "+-.".toList ∧ mark ∉ "xy".toList ∧ mark ≠ '<' ∧ mark ≠ '=' :=
    List.forall_iff_forall_mem.mp (by decide)
  obtain ⟨visible, notDigit, notMark, notVariable, notOrder, notEqual⟩ := others mark listed
  have low := line.low.not_mem_numeral visible notDigit notMark
  have middle := line.middle.not_mem_variable visible notVariable
  have high := line.high.not_mem_numeral visible notDigit notMark
  simp [constraint, low, middle, high, notOrder, notEqual]

theorem backslash_not_mem_plainText : '\\' ∉ line.plainText := by
  have inner := line.not_mem_constraint '\\' (by decide)
  have outer := line.unmarked.backslash
  simp [plainText, inner, outer]

/-- The one opening brace of the line stands behind a space. -/
theorem ungrouped_plainText : Ungrouped line.plainText := by
  intro before after whole
  have inner := line.not_mem_constraint '{' (by decide)
  have outer := line.braceless
  have written : (['y', ' ', '=', ' '] ++ line.expression ++ [' ']) ++
      '{' :: (line.constraint ++ ['}']) = before ++ '{' :: after := by
    rw [← whole, plainText]
    simp only [List.append_assoc, List.cons_append, List.nil_append]
  have start : '{' ∉ ['y', ' ', '=', ' '] ++ line.expression ++ [' '] := by simp [outer]
  have ending : '{' ∉ line.constraint ++ ['}'] := by simp [inner]
  obtain ⟨rfl, -⟩ := (List.append_cons_inj_of_notMem start ending).mp written
  rw [List.reverse_append]
  rfl

theorem parse_plainText :
    Equation.parse line.plainText =
      .ok ⟨Text.trim line.expression, Text.trim line.constraint⟩ := by
  have space : ∀ character ∈ [' '], Text.isBlank character = true :=
    List.forall_mem_singleton.mpr rfl
  have trimmed : Text.trim ([' '] ++ line.expression ++ [' ']) = Text.trim line.expression :=
    (Text.Padded.around space space).trim_eq
  have free : '{' ∉ [' '] ++ line.expression ++ [' '] := by simp [line.braceless]
  have visible : Text.trim ([' '] ++ line.expression ++ [' ']) ≠ [] := trimmed ▸ line.visible
  have encloses : Encloses ('{' :: (line.constraint ++ ['}'])) line.constraint :=
    ⟨by simp [constraint], line.not_mem_constraint '}' (by decide), [], rfl⟩
  have spells := Spells.line (List.forall_mem_nil _) space free (.inr rfl) visible (.body encloses)
  rw [trimmed] at spells
  have written : line.plainText = [] ++ 'y' :: ([' '] ++ '=' ::
      (([' '] ++ line.expression ++ [' ']) ++ '{' :: (line.constraint ++ ['}']))) := by
    simp [plainText]
  rw [written]
  exact Equation.parse_eq_ok_iff.mpr spells

theorem parse?_constraint :
    Chain.parse? (deviceLetters line.constraint) =
      some ⟨line.low.part.numeral, line.middle.part.deviceLetter, line.high.part.numeral⟩ := by
  have order : ∀ {text}, '<' ∉ text → '<' ∉ deviceLetters text := fun free inside =>
    free (mem_of_mem_deviceLetters (by decide) (by decide) inside)
  have bound : ∀ spaced : Spaced Bound,
      Text.trim (deviceLetters (spaced.text Bound.numeral)) = spaced.part.numeral := by
    intro spaced
    have proper := spaced.part.proper
    have kept := deviceLetters_eq_self_iff.mpr
      ⟨proper.not_mem (by decide) (by decide), proper.not_mem (by decide) (by decide)⟩
    rw [(spaced.padded _).deviceLetters.trim_eq, kept, Text.trim_eq_self proper.visible]
  have middle : Text.trim (deviceLetters (line.middle.text Variable.text)) =
      [line.middle.part.deviceLetter] := by
    rw [(line.middle.padded _).deviceLetters.trim_eq]
    cases line.middle.part <;> decide
  refine Chain.parse?_eq_some_iff_parts.mpr ⟨deviceLetters (line.low.text Bound.numeral),
    deviceLetters (line.middle.text Variable.text),
    deviceLetters (line.high.text Bound.numeral), ?_,
    order (line.low.not_mem_numeral (by decide) (by decide) (by decide)),
    order (line.middle.not_mem_variable (by decide) (by decide)),
    order (line.high.not_mem_numeral (by decide) (by decide) (by decide)),
    bound line.low, middle, bound line.high, line.low.part.proper.isNumeral, ?_,
    line.high.part.proper.isNumeral⟩
  · simp [constraint, deviceLetters, deviceLetter]
  · cases line.middle.part <;> rfl

/-- All spellings of a bounded equation come to the calculator as the same expression and the same
conjunction. -/
theorem normalize_parse_ofLine :
    (Equation.parse (ofLine line.text)).map Equation.normalize =
      .ok ⟨deviceLetters (Text.compact line.expression),
        line.low.part.numeral ++ "<=".toList ++ [line.middle.part.deviceLetter] ++
          " and ".toList ++ [line.middle.part.deviceLetter] ++ "<=".toList ++
          line.high.part.numeral⟩ := by
  have found := Chain.parse?_compact line.parse?_constraint
  have plain : ofLine line.text = Text.compact line.plainText :=
    ofLine_eq_compact line.spellOut_text line.backslash_not_mem_plainText
      line.ungrouped_plainText
  rw [plain, Equation.parse_compact, parse_plainText]
  simp only [Except.map, Equation.respaced, Equation.normalize, Text.compact_trim,
    deviceLetters_compact line.constraint, Chain.conjoined, found]
  rfl

/-- A long minus, a bare point, commands that touch what follows them, and a wide blank. -/
theorem normalize_parse_ofLine_stretched : ∃ line : BoundedLine,
    line.text = "y = 2x  \x7d \\left\\\x7b−2\\le x\u2003≤+.5\t\\right\\\x7d".toList ∧
      (Equation.parse (ofLine line.text)).map Equation.normalize =
        .ok ⟨"2X \x7d".toList, "-2<=X and X<=+.5".toList⟩ := by
  have two : Chain.Numeral ['-', '2'] :=
    @Chain.Numeral.signed ['-'] ['2'] (by decide) (.whole (by decide)
      (List.forall_mem_singleton.mpr rfl))
  have half : Chain.Numeral ['+', '.', '5'] :=
    @Chain.Numeral.signed ['+'] ['.', '5'] (by decide)
      (@Chain.Unsigned.pointed [] ['5'] (by decide) (List.forall_mem_singleton.mpr rfl))
  let none : Blanks := ⟨[], List.forall_mem_nil _⟩
  let one (blank : Char) (isBlank : Text.isBlank blank = true) : Blanks :=
    ⟨[blank], List.forall_mem_singleton.mpr isBlank⟩
  let line : BoundedLine := {
    expression := "2x  \x7d".toList
    visible := by decide
    unmarked := by decide
    braceless := by decide
    opening := .stretched
    low := ⟨none, ⟨_, two, true⟩, none⟩
    lowOrder := .command
    middle := ⟨one ' ' rfl, .x, one '\u2003' rfl⟩
    highOrder := .sign
    high := ⟨none, ⟨_, half, false⟩, one '\t' rfl⟩
    closing := .stretched }
  exact ⟨line, rfl, line.normalize_parse_ofLine.trans rfl⟩

end BoundedLine

end Plain

end GraphPrograms
