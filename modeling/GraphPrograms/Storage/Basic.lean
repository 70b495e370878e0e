import GraphPrograms.Equation.Plain
import GraphPrograms.Equation.Sheet
import GraphPrograms.Files.Replace
import GraphPrograms.Program.Chunk
import GraphPrograms.Storage.Layout

/-!
Reading equations from files, and writing rejects, programs and plain equations.

An operation that writes gives the disk after it also when it fails, since what it did before the
failure stays.
-/

namespace GraphPrograms

/-- What failed, and at which path. -/
inductive StorageError where
  | read (path : Path) (cause : ReadError)
  | write (path : Path) (cause : WriteError)
  | makeFolder (path : Path) (cause : FileError)
deriving DecidableEq, Repr

namespace StorageError

def path : StorageError → Path
  | read path _ => path
  | write path _ => path
  | makeFolder path _ => path

/-- What the disk says of the failure; nothing if that would name a temporary file. -/
def cause? : StorageError → Option Text
  | read _ cause => some cause.message
  | write _ cause => cause.message?
  | makeFolder _ cause => some cause.message

/-- What was tried when the failure came. -/
def attempt : StorageError → Text
  | read path _ => "failed to read ".toList ++ path.text
  | write path _ => "failed to write ".toList ++ path.text
  | makeFolder path _ => "failed to create directory ".toList ++ path.text

def message? (error : StorageError) : Option Text :=
  error.cause?.map fun cause => error.attempt ++ ": ".toList ++ cause

end StorageError

namespace Storage

/-- The lines of a file, made plain if asked. -/
def readLines (disk : Disk) (path : Path) (plain : Bool) : Except StorageError (List Text) :=
  match disk.readText path with
  | .error cause => .error (.read path cause)
  | .ok content =>
      .ok (if plain then (Text.lines content).map Plain.ofLine else Text.lines content)

/-- The equations and rejects of a file. -/
def load (disk : Disk) (path : Path) (plain : Bool) : Except StorageError Sheet :=
  (readLines disk path plain).map Sheet.ofLines

/-- Appends rejects to a file, one a line.  Without rejects no file is touched. -/
def appendRejects (disk : Disk) (path : Path) (rejects : List Reject) :
    Disk × Except StorageError Unit :=
  if rejects.isEmpty then (disk, .ok ())
  else
    match disk.append path (Text.encode (Text.ofEndedLines (rejects.map Reject.text))) with
    | .ok written => (written, .ok ())
    | .error cause => (disk, .error (.write path (.file cause)))

/-- Replaces files one after the other, up to the first failure. -/
def replaceEach (disk : Disk) : List (Path × Text) → Disk × Except StorageError (List Path)
  | [] => (disk, .ok [])
  | (path, text) :: rest =>
      match disk.replace path (Text.encode text) with
      | (failed, .error cause) => (failed, .error (.write path cause))
      | (written, .ok _) =>
          let result := replaceEach written rest
          (result.1, result.2.map (path :: ·))

/-- Writes programs to the files of a layout and gives their paths.  Without programs nothing is
touched; otherwise the folder is made if it is missing. -/
def writePrograms (disk : Disk) (layout : OutputLayout) (chunks : List Chunk) :
    Disk × Except StorageError (List Path) :=
  if chunks.isEmpty then (disk, .ok [])
  else
    match disk.makeFolders layout.folder with
    | (made, .error cause) => (made, .error (.makeFolder layout.folder cause))
    | (made, .ok _) =>
        replaceEach made (chunks.map fun chunk => (layout.pathFor chunk.number, chunk.text))

/-- Writes the plain lines of a file to another one, without the empty ones, and gives their
number. -/
def writePlain (disk : Disk) (input output : Path) : Disk × Except StorageError Nat :=
  match readLines disk input true with
  | .error error => (disk, .error error)
  | .ok lines =>
      let kept := lines.filter (!·.isEmpty)
      match disk.replace output (Text.encode (Text.ofEndedLines kept)) with
      | (written, .ok _) => (written, .ok kept.length)
      | (failed, .error cause) => (failed, .error (.write output cause))

end Storage

end GraphPrograms
