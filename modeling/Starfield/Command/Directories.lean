import Starfield.Animation.RunError
import Starfield.Files.FileSystem

namespace Starfield

/-!
# Directories of the program

Settings and logs each have a directory.  Both lie below a root that is given
for one run, or else where the environment puts such files.
-/

/-- What the environment says about directories and logs. -/
structure Environment where
  home : Option String := none
  /-- The home directory where the environment names none. -/
  accountHome : String := "/root"
  configHome : Option String := none
  stateHome : Option String := none
  /-- A filter of notices that takes precedence over the settings. -/
  logFilter : Option String := none
deriving Repr, Inhabited

structure Directories where
  config : Path
  logs : Path
deriving DecidableEq, Repr, Inhabited

namespace Environment

def homeDirectory (environment : Environment) : Path :=
  ⟨(environment.home.filter (· ≠ "")).getD environment.accountHome⟩

/-- A base directory: the one that is named, if its path is absolute, or else
its usual place in the home directory. -/
def baseDirectory (environment : Environment) (named : Option String) (usual : String) : Path :=
  ((named.map Path.mk).filter Path.isAbsolute).getD (environment.homeDirectory.join ⟨usual⟩)

end Environment

namespace Directories

/-- The name of the program among other programs. -/
def programName : Path := ⟨"stardrift"⟩

def ofEnvironment (environment : Environment) : Directories where
  config := (environment.baseDirectory environment.configHome ".config").join programName
  logs := ((environment.baseDirectory environment.stateHome ".local/state").join programName).join
    ⟨"logs"⟩

def underRoot (root : Path) : Directories where
  config := root
  logs := root.join ⟨"logs"⟩

/-- Create the directories that are missing. -/
def create {m : Type -> Type} [Monad m] [FileSystem m] (directories : Directories) :
    m (Except RunError Unit) := do
  match <- FileSystem.makeDirectories directories.config with
  | .error cause => return .error (.directories cause)
  | .ok _ => return (<- FileSystem.makeDirectories directories.logs).mapError .directories

end Directories

end Starfield
