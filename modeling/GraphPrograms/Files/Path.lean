import GraphPrograms.Text.Basic

/-!
Paths of files, as texts with names between slashes.

A path is kept as it was written, since it is shown that way.  `names` is what a look-up walks
through; `parts` is the shorter list that leaves out the dots which stand for nothing.
-/

namespace GraphPrograms

structure Path where
  text : Text
deriving DecidableEq, Repr

namespace Path

def ofString (text : String) : Path := ⟨text.toList⟩

/-- Whether the path starts at the root of the file system. -/
def isAbsolute (path : Path) : Bool := path.text.head? == some '/'

/-- The names between the slashes, dots among them. -/
def names (path : Path) : List Text := (path.text.splitOn '/').filter (!·.isEmpty)

/-- Whether the path ends in a slash, which asks for a folder. -/
def endsWithSlash (path : Path) : Bool := path.text.getLast? == some '/'

/-- The names without the single dots; the one that starts a relative path stays. -/
def parts (path : Path) : List Text :=
  match path.names with
  | [] => []
  | first :: rest =>
      (if first = ['.'] ∧ path.isAbsolute then [] else [first]) ++ rest.filter (· != ['.'])

/-- A path of given parts. -/
def ofParts (absolute : Bool) (parts : List Text) : Path :=
  ⟨(if absolute then ['/'] else []) ++ ['/'].intercalate parts⟩

/-- The path without its last part; none of the root and of the empty path. -/
def parent? (path : Path) : Option Path :=
  if path.parts.isEmpty then none
  else some (ofParts path.isAbsolute path.parts.dropLast)

/-- The path of `name` in the folder `folder`.  An absolute name stands for itself. -/
def join (folder : Path) (name : Text) : Path :=
  if name.head? = some '/' then ⟨name⟩
  else if folder.text.isEmpty ∨ folder.endsWithSlash then ⟨folder.text ++ name⟩
  else ⟨folder.text ++ ['/'] ++ name⟩

/-- The last part of the path if it is the name of a file or folder. -/
def fileName? (path : Path) : Option Text :=
  match path.parts.getLast? with
  | some name => if name = ['.'] ∨ name = "..".toList then none else some name
  | none => none

/-- A name without its extension: the last dot and what follows it, if the dot does not start
the name. -/
def stem (name : Text) : Text :=
  match name.reverse.dropWhile (· != '.') with
  | _ :: first :: before => (first :: before).reverse
  | _ => name

/-- The path with the extension of its last name replaced, or with one added; a path that does
not end in a name stays as it is. -/
def withExtension (path : Path) (extension : Text) : Path :=
  match path.fileName? with
  | some name =>
      ofParts path.isAbsolute (path.parts.dropLast ++ [stem name ++ ['.'] ++ extension])
  | none => path

end Path

end GraphPrograms
