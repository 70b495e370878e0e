import GraphPrograms.Color.Policy
import GraphPrograms.Config.Location
import GraphPrograms.Storage.Layout

/-!
The settings of a run: what the caller gives, or else what the configuration says, or else the
defaults.

The paths of a configuration may refer to environment variables; those that the caller gives are
taken as they are.
-/

namespace GraphPrograms

/-- What the caller gives for a run. -/
structure Overrides where
  input? : Option Path := none
  rejects? : Option Path := none
  folder? : Option Path := none
  plain : Bool := false
deriving DecidableEq, Repr

structure Settings where
  input : Path
  rejects : Path
  plain : Bool
  layout : OutputLayout
  policy : ColorPolicy
  look : Look
deriving DecidableEq, Repr

namespace Settings

def defaultInput : Path := .ofString "input.txt"

def defaultRejects : Path := .ofString "badeqn.txt"

/-- The extension that a configuration names, with or without the dot before it. -/
def withoutDots (extension : Text) : Text := extension.dropWhile (· == '.')

/-- The policy for a range, if there is one. -/
def policyFor : Option (Nat × Nat) → ColorPolicy
  | none => .any
  | some (first, second) => .between first second

/-- The path that a text of a configuration stands for. -/
def pathOf (environment : Environment) (text : Text) : Path := ⟨environment.expand text⟩

def resolve (environment : Environment) (config : Config) (given : Overrides) : Settings :=
  let input := config.input?.getD {}
  let output := config.output?.getD {}
  let colors := config.colors?.getD {}
  let layout : OutputLayout := {}
  let expanded := fun (path? : Option Text) => path?.map (pathOf environment)
  { input := (given.input?.or (expanded input.path?)).getD defaultInput
    rejects := (given.rejects?.or (expanded input.rejects?)).getD defaultRejects
    plain := given.plain || input.plain
    layout :=
      { folder := (given.folder?.or (expanded output.folder?)).getD layout.folder
        stem := output.stem?.getD layout.stem
        extension := (output.extension?.map withoutDots).getD layout.extension }
    policy := policyFor colors.range?
    look := config.look?.getD {} }

end Settings

end GraphPrograms
