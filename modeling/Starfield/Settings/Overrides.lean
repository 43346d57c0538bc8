import Starfield.Files.Path
import Starfield.Settings.Basic

namespace Starfield

/-!
# Overrides

Settings that are given for one run.  They are laid over the stored settings
and never stored themselves.
-/

structure Overrides where
  width : Option UInt32 := none
  height : Option UInt32 := none
  pixelRatio : Option Float := none
  seed : Option UInt64 := none
  speedScale : Option Float32 := none
  debounceMs : Option Float := none
  logLevel : Option String := none
  /-- The directory that holds the settings. -/
  root : Option Path := none
deriving Inhabited

namespace Overrides

/-- Settings with what is given laid over them. -/
def apply (overrides : Overrides) (settings : Settings) : Settings where
  window := {
    width := overrides.width.getD settings.window.width
    height := overrides.height.getD settings.window.height
    pixelRatio := overrides.pixelRatio.getD settings.window.pixelRatio }
  field := { settings.field with
    seed := overrides.seed.getD settings.field.seed
    motion := { settings.field.motion with
      speedScale := overrides.speedScale.getD settings.field.motion.speedScale } }
  host := { settings.host with
    resizeDebounceMs := overrides.debounceMs.getD settings.host.resizeDebounceMs }
  debug := { settings.debug with
    logLevel := overrides.logLevel.getD settings.debug.logLevel }

end Overrides

end Starfield
