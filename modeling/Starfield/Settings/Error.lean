import Starfield.Color
import Starfield.Files.Error
import Starfield.Number.Layout

namespace Starfield

/-!
# Refused settings

Settings are refused for a cause: the file, its text, or one setting whose
value lies outside its domain.  The wording of every refusal is in this module
alone.
-/

/-- A setting that validation looks at. -/
inductive Setting
  | layersSize
  | starAlpha
  | starSpeedX
  | starSpeedY
  | glow
  | alphaClamp
  | paletteStars
  | nebulaHue
  | nebulaSaturation
  | nebulaLightness
  | nebulaBlobs
  | blobOffsetX
  | blobOffsetY
  | blobRadius
  | blobAlpha
  | nebulaAlpha
  | nebulaSpeedX
  | nebulaSpeedY
  | spawnHeightFraction
  | speedScale
  | maxFrameMs
  | twinkleAmplitude
  | twinkleFrequency
  | vignetteStrength
  | vignette
  | beamAlpha
  | beamWidthFraction
  | lightBeam
  | resizeDebounceMs
  | targetFps
  | pixelRatio
deriving DecidableEq, Repr, Inhabited

namespace Setting

/-- The name of a setting in messages. -/
def path : Setting -> String
  | layersSize => "layers.size"
  | starAlpha => "star_alpha"
  | starSpeedX => "star_speed.x"
  | starSpeedY => "star_speed.y"
  | glow => "glow"
  | alphaClamp => "alpha_clamp"
  | paletteStars => "palette.stars"
  | nebulaHue => "palette.nebula_hue"
  | nebulaSaturation => "palette.nebula_saturation"
  | nebulaLightness => "palette.nebula_lightness"
  | nebulaBlobs => "nebula.blobs"
  | blobOffsetX => "nebula.blob_offset_x"
  | blobOffsetY => "nebula.blob_offset_y"
  | blobRadius => "nebula.blob_radius"
  | blobAlpha => "nebula.blob_alpha"
  | nebulaAlpha => "nebula.alpha"
  | nebulaSpeedX => "nebula.speed_x"
  | nebulaSpeedY => "nebula.speed_y"
  | spawnHeightFraction => "nebula.spawn_height_fraction"
  | speedScale => "motion.speed_scale"
  | maxFrameMs => "motion.max_frame_ms"
  | twinkleAmplitude => "twinkle.amplitude"
  | twinkleFrequency => "twinkle.frequency"
  | vignetteStrength => "overlay.vignette.strength"
  | vignette => "overlay.vignette"
  | beamAlpha => "overlay.light_beam.alpha"
  | beamWidthFraction => "overlay.light_beam.width_fraction"
  | lightBeam => "overlay.light_beam"
  | resizeDebounceMs => "host.resize_debounce_ms"
  | targetFps => "host.target_fps"
  | pixelRatio => "window.pixel_ratio"

end Setting

/-- Why a value lies outside its domain. -/
inductive Reason
  | negativeLowerBound (bound : Float32)
  | upperBoundAboveOne (bound : Float32)
  | emptyPalette
  | colorOutside (color : Rgb)
  | notNonNegative (value : Float)
  | notUnit (value : Float32)
  | beamNotFinite
  | zeroRate
  | notPositive (value : Float)
deriving Repr, Inhabited

namespace Reason

def colorText (color : Rgb) : String :=
  "Rgb \x7b r: " ++ Layout.literal.text color.red ++ ", g: " ++ Layout.literal.text color.green ++
    ", b: " ++ Layout.literal.text color.blue ++ " \x7d"

def message : Reason -> String
  | negativeLowerBound bound => "lower bound " ++ Layout.message.text bound ++ " is negative"
  | upperBoundAboveOne bound => "upper bound " ++ Layout.message.text bound ++ " exceeds 1.0"
  | emptyPalette => "star palette is empty"
  | colorOutside color => "color " ++ colorText color ++ " has channels outside [0, 1]"
  | notNonNegative value => Layout.message.text value ++ " must be finite and non-negative"
  | notUnit value => Layout.message.text value ++ " must lie in [0, 1]"
  | beamNotFinite => "angle and offset must be finite"
  | zeroRate => "refresh rate must be positive"
  | notPositive value => Layout.message.text value ++ " must be finite and positive"

end Reason

/-- Why settings are refused. -/
inductive SettingsError
  | read (cause : FileError)
  | write (cause : FileError)
  | malformed
  | invalidRange (setting : Setting) (min max : Float)
  | invalidValue (setting : Setting) (reason : Reason)
deriving Repr, Inhabited

namespace SettingsError

def message : SettingsError -> String
  | read cause => "failed to read config: " ++ cause.message
  | write cause => "failed to write config: " ++ cause.message
  | malformed => "failed to parse config:"
  | invalidRange setting min max =>
    "invalid range for \x60" ++ setting.path ++ "\x60: min " ++ Layout.message.text min ++
      " > max " ++ Layout.message.text max ++ " or not finite"
  | invalidValue setting reason =>
    "invalid value for \x60" ++ setting.path ++ "\x60: " ++ reason.message

end SettingsError

end Starfield
