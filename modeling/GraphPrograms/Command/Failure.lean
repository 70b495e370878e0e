import GraphPrograms.Config.Location
import GraphPrograms.Storage.Basic

/-!
Failures of a command, with what was being done and the causes from the outside in.
-/

namespace GraphPrograms

/-- A failure; its causes are not known if one of them would name a temporary file or a place in
a document. -/
structure Failure where
  doing : Text
  causes? : Option (List Text)
deriving DecidableEq, Repr

namespace Failure

def ofStorage (doing : Text) (error : StorageError) : Failure where
  doing := doing
  causes? := do some [← error.message?, ← error.cause?]

def ofConfig (doing : Text) (error : ConfigError) : Failure where
  doing := doing
  causes? := do some [← error.message?, ← error.cause?]

/-- A cause with its number; further lines of it stand under the first one. -/
def causeLine (cause : Text) (number : Nat) : Text :=
  Text.padLeft 5 (Text.ofNat number) ++ ": ".toList ++
    ('\n' :: List.replicate 7 ' ').intercalate (cause.splitOn '\n')

/-- The report of a failure. -/
def report? (failure : Failure) : Option Text :=
  failure.causes?.map fun causes =>
    let lines := causes.zipIdx.map fun entry => causeLine entry.1 entry.2
    Text.ofEndedLines (("Error: ".toList ++ failure.doing) ::
      (if causes.isEmpty then [] else [[], "Caused by:".toList] ++ lines))

end Failure

end GraphPrograms
