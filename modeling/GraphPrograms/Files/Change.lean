import GraphPrograms.Files.Disk

/-!
What changes between two states of a file tree, as steps that take one to the other.
-/

namespace GraphPrograms

/-- One step on a file tree. -/
inductive Change where
  | remove (place : Place)
  | makeFolder (place : Place)
  | write (place : Place) (content : ByteArray)

namespace Tree

mutual

/-- All entries of a tree by their places, a folder before its members.  Only files have
content. -/
def entries (place : Place) : Tree → List (Place × Option ByteArray)
  | .file content => [(place, some content)]
  | .folder members => (place, none) :: memberEntries place members

def memberEntries (place : Place) : List (Text × Tree) → List (Place × Option ByteArray)
  | [] => []
  | (name, tree) :: rest => tree.entries (place ++ [name]) ++ memberEntries place rest

end

/-- The steps from one tree to another: what is gone or of another kind is removed, innermost
first, and then what is new is made, outermost first. -/
def changes (before after : Tree) : List Change :=
  let old := before.entries []
  let new := after.entries []
  let gone := old.filter fun entry => !new.any fun other =>
    other.1 == entry.1 && other.2.isSome == entry.2.isSome
  let made := new.filter fun entry => !old.contains entry
  gone.reverse.map (fun entry => .remove entry.1) ++ made.map fun entry =>
    match entry.2 with
    | none => .makeFolder entry.1
    | some content => .write entry.1 content

end Tree

namespace Disk

/-- The places that names lead through from a place on. -/
def through (place : Place) : List Text → List Place
  | [] => []
  | name :: rest =>
      let next :=
        if name = ['.'] then place
        else if name = ['.', '.'] then place.dropLast
        else place ++ [name]
      next :: through next rest

end Disk

end GraphPrograms
