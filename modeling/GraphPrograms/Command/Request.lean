import GraphPrograms.Settings

/-!
The command line: what is asked for.

Options with a value and the plain flag may stand before the verb or behind it; given in both
places, the later one counts, and given twice in one place they are a mistake.  A value stands
behind its option or after an equals sign, and is never empty.  Two dashes end the options.
-/

namespace GraphPrograms

/-- What is to be done. -/
inductive Verb where
  | curate
  | convert
  | check
  | plain
  | help
deriving DecidableEq, Repr

/-- An option with a value. -/
inductive Setting where
  | config
  | rejects
  | folder
  | output
deriving DecidableEq, Repr

/-- A run that does not come about: the arguments are mistaken, or ask for a text only. -/
inductive Stop where
  | misuse
  | version
  | help
deriving DecidableEq, Repr

/-- What is done, with the file it is done to. -/
inductive Task where
  | curate (input? : Option Path)
  | convert (input? : Option Path)
  | check (input? : Option Path)
  | plain (input output : Path)
deriving DecidableEq, Repr

structure Request where
  task : Task
  config? : Option Path := none
  rejects? : Option Path := none
  folder? : Option Path := none
  plain : Bool := false
deriving DecidableEq, Repr

/-- The form of an argument. -/
inductive Argument where
  | long (name : Text) (value? : Option Text)
  /-- A letter behind one dash, and what follows it. -/
  | short (letter : Char) (rest : Text)
  | endOfOptions
  | word (text : Text)
deriving DecidableEq, Repr

namespace Argument

def ofText : Text → Argument
  | ['-', '-'] => endOfOptions
  | '-' :: '-' :: rest =>
      match Text.cut? '=' rest with
      | some (name, value) => long name (some value)
      | none => long rest none
  | '-' :: letter :: rest => short letter rest
  | text => word text

end Argument

namespace Verb

def ofName? (name : Text) : Option Verb :=
  [("curate".toList, curate), ("convert".toList, convert), ("check".toList, check),
    ("plaintext".toList, plain), ("help".toList, help)].lookup name

end Verb

/-- The option of a name, before a verb or behind one. -/
def Setting.ofName? (verb? : Option Verb) (name : Text) : Option Setting :=
  if name = "config".toList then some .config
  else if name = "rejects".toList then some .rejects
  else if name = "out-dir".toList then some .folder
  else if name = "output".toList ∧ verb? = some .plain then some .output
  else none

/-- What is given in one place. -/
structure Given where
  values : List (Setting × Path) := []
  plain : Bool := false
  inputs : List Path := []
deriving DecidableEq, Repr

namespace Given

def get? (given : Given) (setting : Setting) : Option Path := given.values.lookup setting

/-- Gives an option its value. -/
def set (given : Given) (setting : Setting) (value : Text) : Except Stop Given :=
  if value.isEmpty ∨ (given.get? setting).isSome then .error .misuse
  else .ok { given with values := (setting, ⟨value⟩) :: given.values }

def setPlain (given : Given) : Except Stop Given :=
  if given.plain then .error .misuse else .ok { given with plain := true }

/-- Takes the input, of which there is one at most. -/
def addInput (given : Given) (text : Text) : Except Stop Given :=
  if text.isEmpty ∨ !given.inputs.isEmpty then .error .misuse
  else .ok { given with inputs := [⟨text⟩] }

end Given

/-- The arguments read so far. -/
structure ArgumentReading where
  verb? : Option Verb := none
  /-- What stands before the verb. -/
  outer : Given := {}
  /-- What stands behind it. -/
  inner : Given := {}
  /-- The option whose value comes next. -/
  pending? : Option Setting := none
  optionsOver : Bool := false
deriving DecidableEq, Repr

namespace ArgumentReading

/-- Changes what is given in the place where the reading is. -/
def update (reading : ArgumentReading) (change : Given → Except Stop Given) :
    Except Stop ArgumentReading :=
  match reading.verb? with
  | none => (change reading.outer).map fun given => { reading with outer := given }
  | some _ => (change reading.inner).map fun given => { reading with inner := given }

/-- Reads an option of several letters. -/
def long (reading : ArgumentReading) (name : Text) (value? : Option Text) :
    Except Stop ArgumentReading :=
  match Setting.ofName? reading.verb? name, value? with
  | some setting, some value => reading.update (·.set setting value)
  | some setting, none => .ok { reading with pending? := some setting }
  | none, some _ => .error .misuse
  | none, none =>
      if name = "plaintext".toList then reading.update Given.setPlain
      else if name = "help".toList then .error .help
      else if name = "version".toList ∧ reading.verb? = none then .error .version
      else .error .misuse

/-- Reads an option of one letter. -/
def short (reading : ArgumentReading) (letter : Char) (rest : Text) :
    Except Stop ArgumentReading :=
  if letter = 'h' then .error .help
  else if letter = 'V' ∧ reading.verb? = none then .error .version
  else if letter = 'o' ∧ reading.verb? = some .plain then
    match rest with
    | [] => .ok { reading with pending? := some .output }
    | '=' :: value => reading.update (·.set .output value)
    | value => reading.update (·.set .output value)
  else .error .misuse

/-- Reads an argument that is no option: the verb, or its input. -/
def word (reading : ArgumentReading) (text : Text) : Except Stop ArgumentReading :=
  match reading.verb? with
  | some _ => reading.update (·.addInput text)
  | none =>
      match Verb.ofName? text with
      | some verb =>
          if reading.optionsOver then .error .misuse else .ok { reading with verb? := some verb }
      | none => .error .misuse

/-- Reads one argument. -/
def step (reading : ArgumentReading) (text : Text) : Except Stop ArgumentReading :=
  if reading.verb? = some .help then
    if (Verb.ofName? text).isSome then reading.word text else .error .misuse
  else if reading.optionsOver then reading.word text
  else
    match reading.pending?, Argument.ofText text with
    | some setting, .word value =>
        { reading with pending? := none }.update (·.set setting value)
    | some _, _ => .error .misuse
    | none, .long name value? => reading.long name value?
    | none, .short letter rest => reading.short letter rest
    | none, .endOfOptions => .ok { reading with optionsOver := true }
    | none, .word text => reading.word text

/-- The value of an option, from behind the verb or else from before it. -/
def get? (reading : ArgumentReading) (setting : Setting) : Option Path :=
  (reading.inner.get? setting).or (reading.outer.get? setting)

/-- The task of a verb; without a verb equations are curated. -/
def task (reading : ArgumentReading) : Except Stop Task :=
  let input? := reading.inner.inputs.head?
  match reading.verb?, input? with
  | none, _ => .ok (.curate none)
  | some .curate, _ => .ok (.curate input?)
  | some .convert, _ => .ok (.convert input?)
  | some .check, _ => .ok (.check input?)
  | some .plain, some input =>
      .ok (.plain input ((reading.inner.get? .output).getD (.ofString "output.txt")))
  | some .plain, none => .error .misuse
  | some .help, _ => .error .help

/-- What is asked for once all arguments are read. -/
def finish (reading : ArgumentReading) : Except Stop Request :=
  if reading.pending?.isSome then .error .misuse
  else reading.task.map fun task =>
    { task := task
      config? := reading.get? .config
      rejects? := reading.get? .rejects
      folder? := reading.get? .folder
      plain := reading.outer.plain || reading.inner.plain }

end ArgumentReading

namespace Request

/-- What a list of arguments asks for. -/
def ofArguments (arguments : List Text) : Except Stop Request := do
  (← arguments.foldlM ArgumentReading.step {}).finish

/-- The input named on the command line. -/
def input? (request : Request) : Option Path :=
  match request.task with
  | .curate input? => input?
  | .convert input? => input?
  | .check input? => input?
  | .plain _ _ => none

def overrides (request : Request) : Overrides where
  input? := request.input?
  rejects? := request.rejects?
  folder? := request.folder?
  plain := request.plain

end Request

end GraphPrograms
