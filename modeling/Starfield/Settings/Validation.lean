import Starfield.Settings.Basic
import Starfield.Settings.Error

namespace Starfield

/-!
# Validation

Settings are accepted when every number that generation, animation or painting
relies on lies in its domain.  The checks run in a fixed order and the first
one that fails is the refusal.  Every check is written so that an undefined
number fails it.
-/

namespace Range

/-- Both ends are finite and in order. -/
def isOrdered (range : Range) : Bool :=
  range.min.isFinite && range.max.isFinite && !(range.max < range.min)

def check (setting : Setting) (range : Range) : Except SettingsError Unit :=
  if range.isOrdered then .ok ()
  else .error (.invalidRange setting (widen range.min) (widen range.max))

/-- The range is ordered and has no negative numbers. -/
def checkNonNegative (setting : Setting) (range : Range) : Except SettingsError Unit := do
  range.check setting
  if range.min < 0 then throw (.invalidValue setting (.negativeLowerBound range.min))

/-- The range lies in `[0, 1]`. -/
def checkUnit (setting : Setting) (range : Range) : Except SettingsError Unit := do
  range.checkNonNegative setting
  if 1 < range.max then throw (.invalidValue setting (.upperBoundAboveOne range.max))

end Range

namespace CountRange

def check (setting : Setting) (range : CountRange) : Except SettingsError Unit :=
  if range.max < range.min then
    .error (.invalidRange setting range.min.toFloat range.max.toFloat)
  else .ok ()

end CountRange

/-- A number is finite and not negative. -/
def checkNonNegative (setting : Setting) (value : Float) : Except SettingsError Unit :=
  if value.isFinite && !(value < 0) then .ok ()
  else .error (.invalidValue setting (.notNonNegative value))

/-- A number lies in `[0, 1]`. -/
def checkUnit (setting : Setting) (value : Float32) : Except SettingsError Unit :=
  if value.isFinite && 0 ≤ value && value ≤ 1 then .ok ()
  else .error (.invalidValue setting (.notUnit value))

namespace Palette

/-- There are star colors, and all of them can be shown. -/
def checkStars (palette : Palette) : Except SettingsError Unit :=
  if palette.stars.isEmpty then .error (.invalidValue .paletteStars .emptyPalette)
  else
    match palette.stars.find? fun color => !color.isNormalized with
    | some color => .error (.invalidValue .paletteStars (.colorOutside color))
    | none => .ok ()

def validate (palette : Palette) : Except SettingsError Unit := do
  palette.checkStars
  palette.nebulaHue.check .nebulaHue
  checkUnit .nebulaSaturation palette.nebulaSaturation
  checkUnit .nebulaLightness palette.nebulaLightness

end Palette

namespace NebulaSettings

def validate (nebula : NebulaSettings) : Except SettingsError Unit := do
  nebula.blobs.check .nebulaBlobs
  nebula.blobOffsetX.check .blobOffsetX
  nebula.blobOffsetY.check .blobOffsetY
  nebula.blobRadius.checkNonNegative .blobRadius
  nebula.blobAlpha.checkUnit .blobAlpha
  nebula.alpha.checkUnit .nebulaAlpha
  nebula.speedX.check .nebulaSpeedX
  nebula.speedY.check .nebulaSpeedY
  checkUnit .spawnHeightFraction nebula.spawnHeightFraction

end NebulaSettings

namespace Overlay

def validateVignette (vignette : Vignette) : Except SettingsError Unit := do
  checkUnit .vignetteStrength vignette.strength
  Range.checkNonNegative .vignette ⟨vignette.inner, vignette.outer⟩

def validateLightBeam (beam : LightBeam) : Except SettingsError Unit := do
  checkUnit .beamAlpha beam.alpha
  checkNonNegative .beamWidthFraction (widen beam.widthFraction)
  if !(beam.angle.isFinite && beam.offsetFraction.isFinite) then
    throw (.invalidValue .lightBeam .beamNotFinite)

def validate (overlay : Overlay) : Except SettingsError Unit := do
  overlay.vignette.forM validateVignette
  overlay.lightBeam.forM validateLightBeam

end Overlay

namespace FieldSettings

def validate (settings : FieldSettings) : Except SettingsError Unit := do
  settings.layers.forM fun layer => layer.size.checkNonNegative .layersSize
  settings.starAlpha.checkUnit .starAlpha
  settings.starSpeed.x.check .starSpeedX
  settings.starSpeed.y.check .starSpeedY
  settings.glow.checkNonNegative .glow
  settings.alphaClamp.checkUnit .alphaClamp
  settings.palette.validate
  settings.nebula.validate
  checkNonNegative .speedScale (widen settings.motion.speedScale)
  checkNonNegative .maxFrameMs settings.motion.maxFrameMs
  checkNonNegative .twinkleAmplitude (widen settings.twinkle.amplitude)
  checkNonNegative .twinkleFrequency (widen settings.twinkle.frequency)
  settings.overlay.validate

end FieldSettings

namespace Settings

def validate (settings : Settings) : Except SettingsError Unit := do
  settings.field.validate
  checkNonNegative .resizeDebounceMs settings.host.resizeDebounceMs
  if settings.host.targetFps = 0 then throw (.invalidValue .targetFps .zeroRate)
  if !(settings.window.pixelRatio.isFinite && 0 < settings.window.pixelRatio) then
    throw (.invalidValue .pixelRatio (.notPositive settings.window.pixelRatio))

end Settings

end Starfield
