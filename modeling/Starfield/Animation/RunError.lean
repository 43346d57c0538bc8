import Starfield.Image.Png
import Starfield.Settings.Error

namespace Starfield

/-!
# Why a run ends early
-/

/-- Why an animation is refused or given up. -/
inductive RunError
  | settings (cause : SettingsError)
  /-- The encoder refused an image. -/
  | encoding (cause : Png.EncodingError)
  /-- An image or the directory for images could not be written. -/
  | image (cause : FileError)
  /-- There is nothing to draw on. -/
  | noSurface
  /-- The directories of the program could not be created. -/
  | directories (cause : FileError)
deriving Repr, Inhabited

namespace RunError

def message : RunError -> String
  | settings cause => cause.message
  | encoding cause => "failed to encode png: " ++ cause.message
  | image cause => "failed to write image: " ++ cause.message
  | noSurface => "no drawable surface is available"
  | directories cause => "platform I/O error: " ++ cause.message

end RunError

end Starfield
