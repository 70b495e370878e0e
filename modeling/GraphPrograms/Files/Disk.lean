import GraphPrograms.Files.Path
import GraphPrograms.Files.Tree

/-!
A disk: a file tree with a current folder, and what can be done to it through paths.

A path is walked name by name from the root or from the current folder, and every name but the
last one has to be a folder's.  The last one is left to the operation: it may be missing where
something new is made.  Every operation either fails with the reason and no effect, or gives the
changed disk.
-/

namespace GraphPrograms

/-- Why an operation on files fails. -/
inductive FileError where
  | notFound
  | busy
  | alreadyThere
  | notAFolder
  | isAFolder
  | notEmpty
deriving DecidableEq, Repr

def FileError.message : FileError → Text
  | notFound => "No such file or directory (os error 2)".toList
  | busy => "Device or resource busy (os error 16)".toList
  | alreadyThere => "File exists (os error 17)".toList
  | notAFolder => "Not a directory (os error 20)".toList
  | isAFolder => "Is a directory (os error 21)".toList
  | notEmpty => "Directory not empty (os error 39)".toList

/-- Why a text cannot be read. -/
inductive ReadError where
  | file (error : FileError)
  | notUtf8
deriving DecidableEq, Repr

def ReadError.message : ReadError → Text
  | .file error => error.message
  | .notUtf8 => "stream did not contain valid UTF-8".toList

/-- The bytes of a text. -/
def Text.encode (text : Text) : ByteArray := (String.ofList text).toUTF8

/-- The text that bytes hold; none if they are not the bytes of a text. -/
def Text.decode? (bytes : ByteArray) : Option Text :=
  (String.fromUTF8? bytes).map String.toList

@[simp] theorem Text.decode?_encode (text : Text) : Text.decode? (Text.encode text) = some text := by
  rw [Text.decode?, Text.encode, String.fromUTF8?, String.toUTF8,
    dif_pos (String.ofList text).isValidUTF8]
  exact congrArg some (String.toList_ofList (l := text))

structure Disk where
  root : Tree
  current : Place := []

namespace Disk

/-- Where a path leads. -/
inductive Target where
  /-- An existing folder that the path reaches through a dot or the root. -/
  | folder (place : Place)
  /-- A name in an existing folder; `asFolder` if the path asks for a folder there. -/
  | member (folder : Place) (name : Text) (asFolder : Bool)
deriving DecidableEq, Repr

def get? (disk : Disk) (place : Place) : Option Tree := disk.root.get? place

def put (disk : Disk) (place : Place) (tree : Tree) : Disk :=
  { disk with root := disk.root.put place tree }

def erase (disk : Disk) (place : Place) : Disk := { disk with root := disk.root.erase place }

/-- Goes from a folder to the one that a name leads to. -/
def enter (disk : Disk) (place : Place) (name : Text) : Except FileError Place :=
  if name = ['.'] then .ok place
  else if name = ['.', '.'] then .ok place.dropLast
  else
    match disk.get? (place ++ [name]) with
    | none => .error .notFound
    | some (.file _) => .error .notAFolder
    | some (.folder _) => .ok (place ++ [name])

/-- Goes from folder to folder. -/
def walk (disk : Disk) : Place → List Text → Except FileError Place
  | place, [] => .ok place
  | place, name :: rest => do disk.walk (← disk.enter place name) rest

/-- The place where the names of a path start. -/
def start (disk : Disk) (path : Path) : Place := if path.isAbsolute then [] else disk.current

/-- Where a path leads; the empty path leads nowhere. -/
def locate (disk : Disk) (path : Path) : Except FileError Target :=
  match path.names.getLast? with
  | none => if path.isAbsolute then .ok (.folder []) else .error .notFound
  | some name => do
      let folder ← disk.walk (disk.start path) path.names.dropLast
      if name = ['.'] ∨ name = ['.', '.'] then return .folder (← disk.enter folder name)
      else return .member folder name path.endsWithSlash

/-- The bytes of a file. -/
def read (disk : Disk) (path : Path) : Except FileError ByteArray := do
  match ← disk.locate path with
  | .folder _ => .error .isAFolder
  | .member folder name asFolder =>
      match disk.get? (folder ++ [name]) with
      | none => .error .notFound
      | some (.folder _) => .error .isAFolder
      | some (.file content) => if asFolder then .error .notAFolder else .ok content

/-- The text of a file. -/
def readText (disk : Disk) (path : Path) : Except ReadError Text :=
  match disk.read path with
  | .error error => .error (.file error)
  | .ok bytes =>
      match Text.decode? bytes with
      | none => .error .notUtf8
      | some text => .ok text

theorem readText_of_read {disk : Disk} {path : Path} {text : Text}
    (bytes : disk.read path = .ok (Text.encode text)) : disk.readText path = .ok text := by
  simp only [readText, bytes, Text.decode?_encode]

/-- The entry that a path leads to. -/
def entryAt? (disk : Disk) (path : Path) : Option Tree :=
  match disk.locate path with
  | .error _ => none
  | .ok (.folder place) => disk.get? place
  | .ok (.member folder name asFolder) =>
      (disk.get? (folder ++ [name])).filter fun tree => tree.isFolder || !asFolder

def isThere (disk : Disk) (path : Path) : Bool := (disk.entryAt? path).isSome

def isFolder (disk : Disk) (path : Path) : Bool := (disk.entryAt? path).any Tree.isFolder

/-- Appends bytes to a file, which is made if it is missing. -/
def append (disk : Disk) (path : Path) (bytes : ByteArray) : Except FileError Disk := do
  match ← disk.locate path with
  | .folder _ => .error .isAFolder
  | .member folder name asFolder =>
      if asFolder then .error .isAFolder
      else
        match disk.get? (folder ++ [name]) with
        | none => .ok (disk.put (folder ++ [name]) (.file bytes))
        | some (.file content) => .ok (disk.put (folder ++ [name]) (.file (content ++ bytes)))
        | some (.folder _) => .error .isAFolder

/-- Makes one folder. -/
def makeFolder (disk : Disk) (path : Path) : Except FileError Disk := do
  match ← disk.locate path with
  | .folder _ => .error .alreadyThere
  | .member folder name _ =>
      match disk.get? (folder ++ [name]) with
      | some _ => .error .alreadyThere
      | none => .ok (disk.put (folder ++ [name]) (.folder []))

/-- A path and the paths of the folders around it, innermost first. -/
def ancestors (path : Path) : List Path :=
  path :: (List.range path.parts.length).reverse.filterMap fun count =>
    if count = 0 then none else some (.ofParts path.isAbsolute (path.parts.take count))

/-- Makes the first of the folders that is possible, the others being missing for want of it;
gives the missing ones, outermost first. -/
def makeOutermost (disk : Disk) : List Path → List Path → Except FileError (Disk × List Path)
  | [], missing => .ok (disk, missing)
  | path :: outer, missing =>
      match disk.makeFolder path with
      | .ok made => .ok (made, missing)
      | .error .notFound => disk.makeOutermost outer (path :: missing)
      | .error error =>
          if error = .alreadyThere ∧ disk.isFolder path then .ok (disk, missing) else .error error

/-- Makes folders one after the other, leaving those that are there. -/
def makeEach (disk : Disk) : List Path → Disk × Except FileError Unit
  | [] => (disk, .ok ())
  | path :: rest =>
      match disk.makeFolder path with
      | .ok made => made.makeEach rest
      | .error error =>
          if error = .alreadyThere ∧ disk.isFolder path then disk.makeEach rest
          else (disk, .error error)

/-- Makes a folder with all that is missing around it.  Folders made before a failure stay. -/
def makeFolders (disk : Disk) (path : Path) : Disk × Except FileError Unit :=
  if path.text.isEmpty then (disk, .ok ())
  else
    match disk.makeOutermost (ancestors path) [] with
    | .ok (made, missing) => made.makeEach missing
    | .error error => (disk, .error error)

/-- Removes a file. -/
def removeFile (disk : Disk) (path : Path) : Except FileError Disk := do
  match ← disk.locate path with
  | .folder _ => .error .isAFolder
  | .member folder name asFolder =>
      match disk.get? (folder ++ [name]) with
      | none => .error .notFound
      | some (.folder _) => .error .isAFolder
      | some (.file _) =>
          if asFolder then .error .notAFolder else .ok (disk.erase (folder ++ [name]))

/-- Gives the entry at a place the name that a path leads to.  A file takes the place of a file,
and a folder that of an empty folder. -/
def moveFrom (disk : Disk) (source : Place) (path : Path) : Except FileError Disk := do
  match ← disk.locate path with
  | .folder _ => .error .busy
  | .member folder name asFolder =>
      let place := folder ++ [name]
      match disk.get? source with
      | none => .error .notFound
      | some (.file content) =>
          if asFolder then .error .notAFolder
          else
            match disk.get? place with
            | some (.folder _) => .error .isAFolder
            | _ => .ok ((disk.erase source).put place (.file content))
      | some (.folder members) =>
          if place = source then .ok disk
          else
            match disk.get? place with
            | some (.file _) => .error .notAFolder
            | some (.folder (_ :: _)) => .error .notEmpty
            | _ => .ok ((disk.erase source).put place (.folder members))

/-- Gives the entry that one path leads to the name that another one leads to. -/
def move (disk : Disk) (source target : Path) : Except FileError Disk := do
  match ← disk.locate source with
  | .folder _ => .error .busy
  | .member folder name _ => disk.moveFrom (folder ++ [name]) target

end Disk

end GraphPrograms
