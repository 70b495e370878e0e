import GraphPrograms.Command.Basic

/-!
A run of the program: from its arguments to what is left on the disk and what is said.

Every run first makes the file for its log, in the user's folder or else in the current one.  A
configuration that is named must load; the one that is looked for is used if it loads.
-/

namespace GraphPrograms

/-- How a run ends. -/
inductive Outcome where
  | done (output : Text)
  | failed (failure : Failure)
  | misused
deriving DecidableEq, Repr

namespace Outcome

def status : Outcome → Nat
  | done _ => 0
  | failed _ => 1
  | misused => 2

def output : Outcome → Text
  | done output => output
  | _ => []

/-- The outcome of a step that says something or fails. -/
def ofExcept {α : Type} (say : α → Text) : Except Failure α → Outcome
  | .ok value => done (say value)
  | .error failure => failed failure

end Outcome

namespace Command

def version : Text := "ticonv 0.1.0\n".toList

/-- The forms of a call. -/
def usage : Text := Text.ofEndedLines [
  "Usage: ticonv [OPTIONS] [curate|convert|check] [INPUT]".toList,
  "       ticonv plaintext <INPUT> [-o <OUTPUT>]".toList]

/-- The places for the log, best first. -/
def logPaths (environment : Environment) : List Path :=
  let inside := fun (folder : Path) => (folder.join "logs".toList).join "ticonv.log".toList
  [inside environment.userFolder, inside (.ofString ".ticonv")]

/-- Makes the log at the first place where that is possible. -/
def openLog (disk : Disk) : List Path → Disk
  | [] => disk
  | path :: others =>
      match disk.makeFolders (path.parent?.getD path) with
      | (failed, .error _) => openLog failed others
      | (made, .ok _) =>
          match made.append path (Text.encode []) with
          | .ok opened => opened
          | .error _ => openLog made others

/-- The configuration of a run. -/
def configOf (disk : Disk) (environment : Environment) (request : Request) :
    Except Failure Config :=
  match request.config? with
  | some path =>
      (Config.load disk path).mapError (.ofConfig ("loading config ".toList ++ path.text))
  | none =>
      match Config.loadFound disk environment with
      | .ok config => .ok (config.getD {})
      | .error _ => .ok {}

/-- What is said when a review cannot be shown. -/
def noTerminal : Failure where
  doing := "No such device or address (os error 6)".toList
  causes? := some []

/-- Does what is asked for.  A review needs a terminal, which a run of this kind has not. -/
def perform (disk : Disk) (settings : Settings) : Task → Disk × Outcome
  | .curate _ =>
      let result := loadSheet disk settings
      match result.2 with
      | .error failure => (result.1, .failed failure)
      | .ok _ => (result.1, .failed noTerminal)
  | .convert _ =>
      let result := convert disk settings
      (result.1, .ofExcept (fun conversion => conversion.summary ++ ['\n']) result.2)
  | .check _ => (disk, .ofExcept Sheet.report (check disk settings))
  | .plain input output =>
      let result := makePlain disk input output
      (result.1, .ofExcept (fun count => "Plaintext written to ".toList ++ output.text ++
        " (".toList ++ Text.ofNat count ++ " lines)\n".toList) result.2)

/-- Runs the program with a list of arguments. -/
def run (disk : Disk) (environment : Environment) (arguments : List Text) : Disk × Outcome :=
  let opened := openLog disk (logPaths environment)
  match Request.ofArguments arguments with
  | .error .misuse => (opened, .misused)
  | .error .version => (opened, .done version)
  | .error .help => (opened, .done usage)
  | .ok request =>
      match configOf opened environment request with
      | .error failure => (opened, .failed failure)
      | .ok config =>
          perform opened (.resolve environment config request.overrides) request.task

end Command

end GraphPrograms
