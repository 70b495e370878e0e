import GraphPrograms.Command.Reach
import GraphPrograms.Files.Change

/-!
The program on a real disk: what a run may look at is fetched, the run is computed, and what it
changed is stored.
-/

namespace GraphPrograms

/-- The name of a place, from the root on. -/
def placeName (place : Place) : String := String.ofList ('/' :: ['/'].intercalate place)

/-- Fetches a file, or a folder without its members; nothing if there is none. -/
def fetchEntry (place : Place) : IO (Option Tree) := do
  try
    return some (.file (← IO.FS.readBinFile (placeName place)))
  catch error =>
    match error with
    | .inappropriateType .. => return some (.folder [])
    | _ => return none

/-- Fetches a file or a folder with all its members. -/
partial def fetchTree (place : Place) : IO Tree := do
  match ← fetchEntry place with
  | none => return .folder []
  | some (.file content) => return .file content
  | some (.folder _) =>
      let folder ← IO.FS.realPath (placeName place)
      let members ← (← folder.readDir).toList.mapM fun entry => do
        return (entry.fileName.toList, ← fetchTree (place ++ [entry.fileName.toList]))
      return .folder members

/-- Adds to a disk what stands on the way to a path. -/
def fetchPath (disk : Disk) (path : Path) : IO Disk :=
  (Disk.through (disk.start path) path.names).foldlM (fun disk place => do
    if (disk.get? place).isSome then return disk
    match ← fetchEntry place with
    | some tree => return disk.put place tree
    | none => return disk) disk

/-- Adds to a disk what stands at a path to which something will be moved. -/
def fetchTarget (disk : Disk) (path : Path) : IO Disk := do
  let fetched ← fetchPath disk path
  match (Disk.through (fetched.start path) path.names).getLast? with
  | none => return fetched
  | some place =>
      if (fetched.get? place).any Tree.isFolder then return fetched.put place (← fetchTree place)
      else return fetched

/-- Fetches what a run may look at. -/
def fetchReach (disk : Disk) (environment : Environment) (reach : Reach) :
    IO (Disk × Environment) := do
  let bindings ← reach.names.filterMapM fun name => do
    return (← IO.getEnv (String.ofList name)).map fun value => (name, value.toList)
  let disk ← reach.paths.foldlM fetchPath disk
  let disk ← reach.targets.foldlM fetchTarget disk
  return (disk, { environment with bindings := bindings })

/-- Makes one step on the real disk.  A file is written beside its place and then moved there. -/
def store : Change → IO Unit
  | .makeFolder place => IO.FS.createDirAll (placeName place)
  | .write place content => do
      let name := placeName place
      IO.FS.writeBinFile (name ++ ".part") content
      IO.FS.rename (name ++ ".part") name
  | .remove place => do
      let name := placeName place
      try IO.FS.removeFile name
      catch _ => IO.FS.removeDirAll name

/-- The disk before anything is fetched but the current folder. -/
def emptyDisk (current : Text) : Disk :=
  let place := (Path.mk current).names
  (Disk.through [] place).foldl (fun disk folder => disk.put folder (.folder []))
    { root := .folder [], current := place }

end GraphPrograms

open GraphPrograms in
def main (arguments : List String) : IO UInt32 := do
  let texts := arguments.map String.toList
  let mut disk := emptyDisk (← IO.currentDir).toString.toList
  let mut environment : Environment := {}
  -- The variables, then the configuration, then the input, then the programs come within reach.
  for _ in List.range 4 do
    (disk, environment) ← fetchReach disk environment (Command.reach disk environment texts)
  let (after, outcome) := Command.run disk environment texts
  for change in disk.root.changes after.root do
    store change
  IO.print (String.ofList outcome.output)
  match outcome with
  | .done _ => pure ()
  | .failed failure =>
      IO.eprint (String.ofList (failure.report?.getD ("Error: ".toList ++ failure.doing ++ ['\n'])))
  | .misused => IO.eprint (String.ofList Command.usage)
  return outcome.status.toUInt32
