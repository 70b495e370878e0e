import GraphPrograms.Files.Disk

/-!
Replacing a file as a whole.

The new bytes are written to a temporary file beside the target, which then takes the target's
name; so the target holds all of the old bytes or all of the new ones.  If the name is taken by
something that a file cannot replace, that is moved aside to a backup name first, and moved back
if the second attempt fails as well.
-/

namespace GraphPrograms

/-- Why a file cannot be written. -/
inductive WriteError where
  /-- The temporary file cannot be made; what is said of it would name that file. -/
  | staging (error : FileError)
  | file (error : FileError)
deriving DecidableEq, Repr

/-- What is said of the failure; nothing if it would name a temporary file. -/
def WriteError.message? : WriteError → Option Text
  | .staging _ => none
  | .file error => some error.message

namespace Disk

/-- A name that no member of a folder has: it is longer than all of theirs. -/
def freshName (members : List (Text × Tree)) : Text :=
  ".tmp".toList ++ List.replicate (members.flatMap Prod.fst).length '0'

/-- The folder for the temporary file of a path. -/
def stagingFolder (disk : Disk) (path : Path) : Except FileError Place :=
  match path.parent? with
  | some parent => disk.walk (disk.start parent) parent.names
  | none => .ok disk.current

/-- Puts a temporary file into the folder of a path and gives its place. -/
def stage (disk : Disk) (path : Path) (content : ByteArray) : Except FileError (Disk × Place) := do
  let folder ← disk.stagingFolder path
  match disk.get? folder with
  | some (.folder members) =>
      let place := folder ++ [freshName members]
      return (disk.put place (.file content), place)
  | some (.file _) => .error .notAFolder
  | none => .error .notFound

/-- The name under which what stands at a path is kept. -/
def backupOf (path : Path) : Path := path.withExtension "bak".toList

/-- Gives a temporary file the name of a path where something else stands. -/
def moveAside (staged : Disk) (temporary : Place) (path : Path) : Disk × Except FileError Unit :=
  let cleared := ((staged.removeFile (backupOf path)).toOption).getD staged
  match cleared.move path (backupOf path) with
  | .error error => (cleared.erase temporary, .error error)
  | .ok aside =>
      match aside.moveFrom temporary path with
      | .ok placed => (((placed.removeFile (backupOf path)).toOption).getD placed, .ok ())
      | .error error =>
          match aside.move (backupOf path) path with
          | .ok restored => (restored.erase temporary, .error error)
          -- Where the path leads nowhere any more, neither does that of the temporary file.
          | .error _ => (aside, .error error)

/-- Replaces the file at a path, or makes it. -/
def replace (disk : Disk) (path : Path) (content : ByteArray) :
    Disk × Except WriteError Unit :=
  match disk.stage path content with
  | .error error => (disk, .error (.staging error))
  | .ok (staged, temporary) =>
      match staged.moveFrom temporary path with
      | .ok placed => (placed, .ok ())
      | .error error =>
          if staged.isThere path then
            let result := staged.moveAside temporary path
            (result.1, result.2.mapError .file)
          else (staged.erase temporary, .error (.file error))

end Disk

end GraphPrograms
