import GraphPrograms.Config.Basic
import GraphPrograms.Environment
import GraphPrograms.Files.Disk

/-!
Where the configuration is, and reading it from there.

Unless a variable names another file, it lies in a folder of its own in the user's home.
-/

namespace GraphPrograms

/-- Why a configuration cannot be had, and from which path. -/
inductive ConfigError where
  | read (path : Path) (cause : ReadError)
  /-- The document breaks a rule of its format or gives a field a value of the wrong type. -/
  | parse (path : Path)
deriving DecidableEq, Repr

namespace ConfigError

def path : ConfigError → Path
  | read path _ => path
  | parse path => path

/-- What the disk says of the failure; the place of a mistake in a document is not told. -/
def cause? : ConfigError → Option Text
  | read _ cause => some cause.message
  | parse _ => none

/-- What is said of the failure. -/
def message? (error : ConfigError) : Option Text :=
  error.cause?.map fun cause =>
    "failed to read config at ".toList ++ error.path.text ++ ": ".toList ++ cause

end ConfigError

namespace Environment

/-- The value of a variable that is set to more than nothing. -/
def nonempty? (environment : Environment) (name : String) : Option Text :=
  (environment.get? name.toList).filter (!·.isEmpty)

/-- The user's home. -/
def home (environment : Environment) : Path :=
  ⟨(environment.nonempty? "HOME").getD environment.accountHome⟩

/-- The folder for the configuration and the logs of a user. -/
def userFolder (environment : Environment) : Path := environment.home.join ".ticonv".toList

def configPath (environment : Environment) : Path :=
  match environment.nonempty? "TICONV_CONFIG" with
  | some path => ⟨path⟩
  | none => environment.userFolder.join "config.toml".toList

end Environment

namespace Config

/-- Reads the configuration at a path. -/
def load (disk : Disk) (path : Path) : Except ConfigError Config :=
  match disk.readText path with
  | .error cause => .error (.read path cause)
  | .ok text =>
      match ofText? text with
      | none => .error (.parse path)
      | some config => .ok config

/-- Reads the configuration where it is looked for; it may be missing. -/
def loadFound (disk : Disk) (environment : Environment) : Except ConfigError (Option Config) :=
  if disk.isThere environment.configPath then (load disk environment.configPath).map some
  else .ok none

end Config

end GraphPrograms
