import Starfield.Files.FileSystem
import Starfield.Settings.Codec
import Starfield.Settings.Validation

namespace Starfield

/-!
# Stored settings

Settings are kept as a document in a directory.  Loading never changes a
document that is there: only where there is none, one with the default
settings is written.  What is loaded has been validated.
-/

namespace Settings

variable {m : Type -> Type} [Monad m] [FileSystem m]

def fileName : Path := ⟨"config.ron"⟩

/-- Read the settings of a directory without looking at what they are. -/
def read (directory : Path) : m (Except SettingsError Settings) := do
  match <- FileSystem.readText (directory.join fileName) with
  | .error cause => return .error (.read cause)
  | .ok text =>
    match ofDocument? text with
    | some settings => return .ok settings
    | none => return .error .malformed

/-- Write settings to a directory, which is created if need be. -/
def save (settings : Settings) (directory : Path) : m (Except SettingsError Unit) := do
  match <- FileSystem.makeDirectories directory with
  | .error cause => return .error (.write cause)
  | .ok _ =>
    return (<- FileSystem.writeText (directory.join fileName) settings.document).mapError .write

/-- The settings, if they are accepted. -/
def accepted (settings : Settings) : Except SettingsError Settings := do
  settings.validate
  return settings

/-- The settings of a directory, or the default settings where there are
none. -/
def loadOrCreate (directory : Path) : m (Except SettingsError Settings) := do
  if <- FileSystem.isPresent (directory.join fileName) then
    return (<- read directory).bind accepted
  else
    return (<- save {} directory).map fun _ => {}

/-- The settings of a directory if they are other than these. -/
def reload (settings : Settings) (directory : Path) :
    m (Except SettingsError (Option Settings)) := do
  return (<- read directory).bind fun fresh =>
    if fresh == settings then .ok none else fresh.accepted.map some

end Settings

end Starfield
