import GraphPrograms.Command.Run

/-!
What a run may look at: paths and variables.

How far a run reaches depends on what it finds: a configuration names the input, and the input
tells how many programs there are.  So the reach is asked for again when more is known of the
disk; once it does not grow, the run sees all that it looks for.
-/

namespace GraphPrograms

structure Reach where
  /-- The paths looked at. -/
  paths : List Path := []
  /-- The paths of files to be replaced, and those to which something is moved for that. -/
  targets : List Path := []
  /-- The variables looked at. -/
  names : List Text := []
deriving DecidableEq, Repr

namespace Environment

/-- The names of the variables that a text refers to. -/
def references : Text → List Text
  | [] => []
  | first :: rest =>
      if first = '$' ∧ rest.head? = some '{' then
        rest.tail.takeWhile (· != '}') :: references rest
      else references rest

end Environment

namespace Config

/-- The variables that the paths of a configuration refer to. -/
def references (config : Config) : List Text :=
  let input := config.input?.getD {}
  let output := config.output?.getD {}
  ([input.path?, input.rejects?, output.folder?].filterMap id).flatMap Environment.references

end Config

namespace Command

/-- The reach of a task, as far as the disk tells. -/
def taskReach (disk : Disk) (settings : Settings) : Task → Reach
  | .plain input output =>
      { paths := [input], targets := [output, Disk.backupOf output] }
  | _ =>
      let count := match check disk settings with
        | .ok sheet => Chunk.countFor sheet.equations.length
        | .error _ => 0
      let programs := (List.range count).map fun index => settings.layout.pathFor (index + 1)
      { paths := [settings.input, settings.rejects, settings.layout.folder]
        targets := programs ++ programs.map Disk.backupOf }

/-- The reach of a run, as far as the disk tells. -/
def reach (disk : Disk) (environment : Environment) (arguments : List Text) : Reach :=
  let always := environment.configPath :: logPaths environment
  let names := ["HOME".toList, "TICONV_CONFIG".toList]
  match Request.ofArguments arguments with
  | .error _ => { paths := always, names := names }
  | .ok request =>
      match configOf disk environment request with
      | .error _ => { paths := request.config?.toList ++ always, names := names }
      | .ok config =>
          let settings := Settings.resolve environment config request.overrides
          let task := taskReach disk settings request.task
          { paths := request.config?.toList ++ always ++ task.paths
            targets := task.targets
            names := names ++ config.references }

end Command

end GraphPrograms
