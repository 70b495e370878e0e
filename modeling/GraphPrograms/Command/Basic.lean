import GraphPrograms.Command.Failure
import GraphPrograms.Command.Request
import GraphPrograms.Equation.Kind
import GraphPrograms.Session

/-!
What the commands do to a disk, and what they say.

Each command gives the disk after it also when it fails, since what it did before the failure
stays.
-/

namespace GraphPrograms

/-- The numbers of a conversion, with the programs written. -/
structure Conversion where
  written : List Path
  equationCount : Nat
  rejectCount : Nat
  rejects : Path
deriving DecidableEq, Repr

/-- What is said of a conversion. -/
def Conversion.summary (conversion : Conversion) : Text :=
  "Created ".toList ++ Text.ofNat conversion.written.length ++ " program files from ".toList ++
    Text.ofNat conversion.equationCount ++ " equations.".toList ++
    (if 0 < conversion.rejectCount then
      [' '] ++ Text.ofNat conversion.rejectCount ++ " rejected lines appended to ".toList ++
        conversion.rejects.text ++ ['.']
    else [])

namespace Sheet

/-- A line about an equation. -/
def equationLine (equation : Equation) (number : Nat) : Text :=
  Text.padLeft 4 (Text.ofNat number) ++ "  ".toList ++
    Text.padRight 13 (FunctionKind.classify equation.expression).label ++ "  ".toList ++
    equation.display

/-- A line about a reject. -/
def rejectLine (reject : Reject) : Text :=
  "reject line ".toList ++ Text.ofNat reject.number ++ ": ".toList ++ reject.text

/-- The report on a sheet: its equations with their kinds, its rejects, and their numbers. -/
def report (sheet : Sheet) : Text :=
  Text.ofEndedLines (
    sheet.equations.zipIdx.map (fun entry => equationLine entry.1 (entry.2 + 1)) ++
    sheet.rejects.map rejectLine ++
    [Text.ofNat sheet.equations.length ++ " equations, ".toList ++
      Text.ofNat sheet.rejects.length ++ " rejected".toList])

end Sheet

namespace Command

/-- What is being done when the equations are loaded. -/
def loading (settings : Settings) : Text := "loading equations from ".toList ++ settings.input.text

/-- Loads the equations and saves the rejects. -/
def loadSheet (disk : Disk) (settings : Settings) : Disk × Except Failure Sheet :=
  match Storage.load disk settings.input settings.plain with
  | .error error => (disk, .error (.ofStorage (loading settings) error))
  | .ok sheet =>
      match Storage.appendRejects disk settings.rejects sheet.rejects with
      | (saved, .ok _) => (saved, .ok sheet)
      | (failed, .error error) =>
          (failed, .error (.ofStorage "saving rejected lines".toList error))

/-- Writes the programs of all equations in the fallback color. -/
def convert (disk : Disk) (settings : Settings) : Disk × Except Failure Conversion :=
  match loadSheet disk settings with
  | (failed, .error failure) => (failed, .error failure)
  | (loaded, .ok sheet) =>
      match Storage.writePrograms loaded settings.layout
          (Session.ofEquations sheet.equations).programs with
      | (failed, .error error) =>
          (failed, .error (.ofStorage "writing program files".toList error))
      | (written, .ok paths) =>
          (written, .ok {
            written := paths
            equationCount := sheet.equations.length
            rejectCount := sheet.rejects.length
            rejects := settings.rejects })

/-- Loads the equations without saving anything. -/
def check (disk : Disk) (settings : Settings) : Except Failure Sheet :=
  (Storage.load disk settings.input settings.plain).mapError
    (Failure.ofStorage (loading settings))

/-- Makes the lines of a file plain and gives their number. -/
def makePlain (disk : Disk) (input output : Path) : Disk × Except Failure Nat :=
  let result := Storage.writePlain disk input output
  (result.1, result.2.mapError (Failure.ofStorage
    ("converting ".toList ++ input.text ++ " to plaintext".toList)))

end Command

end GraphPrograms
