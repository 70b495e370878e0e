import GraphPrograms.Files.Path

/-!
The names of program files: `<folder>/<stem><number>.<extension>`.
-/

namespace GraphPrograms

/-- Where programs are written; an empty extension means none. -/
structure OutputLayout where
  folder : Path := ⟨".".toList⟩
  stem : Text := "program".toList
  extension : Text := "txt".toList
deriving DecidableEq, Repr

namespace OutputLayout

def fileName (layout : OutputLayout) (number : Nat) : Text :=
  layout.stem ++ Text.ofNat number ++
    (if layout.extension.isEmpty then [] else '.' :: layout.extension)

def pathFor (layout : OutputLayout) (number : Nat) : Path :=
  layout.folder.join (layout.fileName number)

end OutputLayout

end GraphPrograms
