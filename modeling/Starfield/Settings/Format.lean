import Starfield.Settings.Basic

namespace Starfield

/-!
# The listing of the settings

A format represents values of some types.  Given a representation for each
kind of value that settings are made of, the listing in this module gives one
for all settings.  Names of entries and of records, their order, and what
holds where an entry is missing are said here and nowhere else, so that no two
representations of the settings can differ in them.
-/

/-- An entry of a record of type `σ`. -/
structure Entry (F : Type -> Type) (σ : Type) where
  {Part : Type}
  name : String
  format : F Part
  get : σ -> Part
  set : σ -> Part -> σ

/-- A way to represent settings. -/
class SettingsFormat (F : Type -> Type) where
  single : F Float32
  double : F Float
  word : F UInt32
  seed : F UInt64
  flag : F Bool
  text : F String
  range : F Range
  counts : F CountRange
  color : F Rgb
  pigment : F Pigment
  backdrop : F Backdrop
  list {α : Type} : F α -> F (List α)
  optional {α : Type} : F α -> F (Option α)
  /-- A record by its name, the values of its entries where they are missing,
  and its entries. -/
  record {σ : Type} (name : String) (default : σ) (entries : List (Entry F σ)) : F σ

namespace SettingsFormat

variable {F : Type -> Type} [SettingsFormat F]

def starLayer : F StarLayer :=
  record "StarLayer" {} [
    ⟨"count", word, (·.count), fun s count => { s with count }⟩,
    ⟨"size", range, (·.size), fun s size => { s with size }⟩]

def starSpeed : F StarSpeed :=
  record "StarSpeed" {} [
    ⟨"x", range, (·.x), fun s x => { s with x }⟩,
    ⟨"y", range, (·.y), fun s y => { s with y }⟩]

def palette : F Palette :=
  record "Palette" {} [
    ⟨"stars", list color, (·.stars), fun s stars => { s with stars }⟩,
    ⟨"nebula_hue", range, (·.nebulaHue), fun s nebulaHue => { s with nebulaHue }⟩,
    ⟨"nebula_saturation", single, (·.nebulaSaturation),
      fun s nebulaSaturation => { s with nebulaSaturation }⟩,
    ⟨"nebula_lightness", single, (·.nebulaLightness),
      fun s nebulaLightness => { s with nebulaLightness }⟩]

def nebula : F NebulaSettings :=
  record "NebulaSettings" {} [
    ⟨"count", word, (·.count), fun s count => { s with count }⟩,
    ⟨"blobs", counts, (·.blobs), fun s blobs => { s with blobs }⟩,
    ⟨"blob_offset_x", range, (·.blobOffsetX), fun s blobOffsetX => { s with blobOffsetX }⟩,
    ⟨"blob_offset_y", range, (·.blobOffsetY), fun s blobOffsetY => { s with blobOffsetY }⟩,
    ⟨"blob_radius", range, (·.blobRadius), fun s blobRadius => { s with blobRadius }⟩,
    ⟨"blob_alpha", range, (·.blobAlpha), fun s blobAlpha => { s with blobAlpha }⟩,
    ⟨"alpha", range, (·.alpha), fun s alpha => { s with alpha }⟩,
    ⟨"speed_x", range, (·.speedX), fun s speedX => { s with speedX }⟩,
    ⟨"speed_y", range, (·.speedY), fun s speedY => { s with speedY }⟩,
    ⟨"spawn_height_fraction", single, (·.spawnHeightFraction),
      fun s spawnHeightFraction => { s with spawnHeightFraction }⟩]

def motion : F MotionSettings :=
  record "MotionConfig" {} [
    ⟨"speed_scale", single, (·.speedScale), fun s speedScale => { s with speedScale }⟩,
    ⟨"max_frame_ms", double, (·.maxFrameMs), fun s maxFrameMs => { s with maxFrameMs }⟩]

def twinkle : F Twinkle :=
  record "TwinkleConfig" {} [
    ⟨"amplitude", single, (·.amplitude), fun s amplitude => { s with amplitude }⟩,
    ⟨"frequency", single, (·.frequency), fun s frequency => { s with frequency }⟩]

def vignette : F Vignette :=
  record "Vignette" {} [
    ⟨"inner", single, (·.inner), fun s inner => { s with inner }⟩,
    ⟨"outer", single, (·.outer), fun s outer => { s with outer }⟩,
    ⟨"strength", single, (·.strength), fun s strength => { s with strength }⟩,
    ⟨"color", pigment, (·.color), fun s color => { s with color }⟩]

def lightBeam : F LightBeam :=
  record "LightBeam" {} [
    ⟨"angle_deg", single, (·.angle), fun s angle => { s with angle }⟩,
    ⟨"width_fraction", single, (·.widthFraction),
      fun s widthFraction => { s with widthFraction }⟩,
    ⟨"offset_fraction", single, (·.offsetFraction),
      fun s offsetFraction => { s with offsetFraction }⟩,
    ⟨"color", pigment, (·.color), fun s color => { s with color }⟩,
    ⟨"alpha", single, (·.alpha), fun s alpha => { s with alpha }⟩]

def overlay : F Overlay :=
  record "OverlayConfig" {} [
    ⟨"vignette", optional vignette, (·.vignette), fun s vignette => { s with vignette }⟩,
    ⟨"light_beam", optional lightBeam, (·.lightBeam), fun s lightBeam => { s with lightBeam }⟩]

def field : F FieldSettings :=
  record "FieldConfig" {} [
    ⟨"seed", seed, (·.seed), fun s seed => { s with seed }⟩,
    ⟨"layers", list starLayer, (·.layers), fun s layers => { s with layers }⟩,
    ⟨"star_alpha", range, (·.starAlpha), fun s starAlpha => { s with starAlpha }⟩,
    ⟨"star_speed", starSpeed, (·.starSpeed), fun s starSpeed => { s with starSpeed }⟩,
    ⟨"glow_enabled", flag, (·.glowEnabled), fun s glowEnabled => { s with glowEnabled }⟩,
    ⟨"glow", range, (·.glow), fun s glow => { s with glow }⟩,
    ⟨"palette", palette, (·.palette), fun s palette => { s with palette }⟩,
    ⟨"nebula", nebula, (·.nebula), fun s nebula => { s with nebula }⟩,
    ⟨"motion", motion, (·.motion), fun s motion => { s with motion }⟩,
    ⟨"twinkle", twinkle, (·.twinkle), fun s twinkle => { s with twinkle }⟩,
    ⟨"alpha_clamp", range, (·.alphaClamp), fun s alphaClamp => { s with alphaClamp }⟩,
    ⟨"overlay", overlay, (·.overlay), fun s overlay => { s with overlay }⟩,
    ⟨"background", backdrop, (·.background), fun s background => { s with background }⟩]

def window : F WindowSettings :=
  record "WindowConfig" {} [
    ⟨"width", word, (·.width), fun s width => { s with width }⟩,
    ⟨"height", word, (·.height), fun s height => { s with height }⟩,
    ⟨"pixel_ratio", double, (·.pixelRatio), fun s pixelRatio => { s with pixelRatio }⟩]

def host : F HostSettings :=
  record "HostConfig" {} [
    ⟨"resize_debounce_ms", double, (·.resizeDebounceMs),
      fun s resizeDebounceMs => { s with resizeDebounceMs }⟩,
    ⟨"target_fps", word, (·.targetFps), fun s targetFps => { s with targetFps }⟩]

def debug : F DebugSettings :=
  record "DebugConfig" {} [
    ⟨"show_fps", flag, (·.showFps), fun s showFps => { s with showFps }⟩,
    ⟨"log_level", text, (·.logLevel), fun s logLevel => { s with logLevel }⟩]

def settings : F Settings :=
  record "Config" {} [
    ⟨"window", window, (·.window), fun s window => { s with window }⟩,
    ⟨"field", field, (·.field), fun s field => { s with field }⟩,
    ⟨"host", host, (·.host), fun s host => { s with host }⟩,
    ⟨"debug", debug, (·.debug), fun s debug => { s with debug }⟩]

end SettingsFormat

end Starfield
