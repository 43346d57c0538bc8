import Starfield.Color
import Starfield.Number.Range

namespace Starfield

/-!
# Settings

Everything that can be set about a field of drifting stars, its host and its
window, with the values that hold when nothing is set.  A value of these types
need not be sensible: that is what validation decides.

Equality of settings is equality of numbers, so an undefined number makes
settings differ from themselves.
-/

/-- A color channel as it stands in the settings.  Overlay and background
colors are not validated and are saved as they were read, so an undefined
channel remembers whether it was written with a minus sign. -/
inductive Channel
  | number (value : Float32)
  | minusUndefined
deriving Repr, Inhabited

namespace Channel

def value : Channel -> Float32
  | number value => value
  | minusUndefined => Binary.undefined

instance : BEq Channel where
  beq c d := c.value == d.value

end Channel

/-- A color that is laid over a frame. -/
structure Pigment where
  red : Channel
  green : Channel
  blue : Channel
deriving BEq, Repr, Inhabited

namespace Pigment

def ofRgb (color : Rgb) : Pigment :=
  ⟨.number color.red, .number color.green, .number color.blue⟩

def rgb (pigment : Pigment) : Rgb :=
  ⟨pigment.red.value, pigment.green.value, pigment.blue.value⟩

end Pigment

/-- The color behind a frame. -/
structure Backdrop where
  red : Channel
  green : Channel
  blue : Channel
  alpha : Channel
deriving BEq, Repr, Inhabited

namespace Backdrop

def ofRgba (color : Rgba) : Backdrop :=
  ⟨.number color.red, .number color.green, .number color.blue, .number color.alpha⟩

def rgba (backdrop : Backdrop) : Rgba :=
  ⟨backdrop.red.value, backdrop.green.value, backdrop.blue.value, backdrop.alpha.value⟩

end Backdrop

/-- Stars of one depth. -/
structure StarLayer where
  count : UInt32 := 100
  /-- Radius in logical pixels. -/
  size : Range := ⟨0.8, 1.5⟩
deriving BEq, Repr, Inhabited

/-- The drift of stars in logical pixels for each reference frame. -/
structure StarSpeed where
  x : Range := ⟨-0.05, 0.05⟩
  y : Range := ⟨-0.03, 0.03⟩
deriving BEq, Repr, Inhabited

/-- The colors of particles. -/
structure Palette where
  stars : List Rgb :=
    [.ofBytes 255 255 255, .ofBytes 255 245 200, .ofBytes 200 220 255,
      .ofBytes 255 180 150, .ofBytes 210 255 220, .ofBytes 255 220 255]
  /-- In degrees. -/
  nebulaHue : Range := ⟨220, 260⟩
  nebulaSaturation : Float32 := 0.7
  nebulaLightness : Float32 := 0.6
deriving BEq, Repr, Inhabited

/-- How many nebulae there are and what their blobs look like. -/
structure NebulaSettings where
  count : UInt32 := 6
  /-- Blobs of one nebula. -/
  blobs : CountRange := ⟨6, 12⟩
  blobOffsetX : Range := ⟨-150, 150⟩
  blobOffsetY : Range := ⟨-120, 120⟩
  blobRadius : Range := ⟨100, 250⟩
  blobAlpha : Range := ⟨0.05, 0.15⟩
  /-- The opacity of the whole nebula. -/
  alpha : Range := ⟨0.1, 0.25⟩
  speedX : Range := ⟨0.005, 0.02⟩
  speedY : Range := ⟨-0.005, 0.005⟩
  /-- Nebulae start within this upper part of the view. -/
  spawnHeightFraction : Float32 := 0.5
deriving BEq, Repr, Inhabited

structure MotionSettings where
  /-- A factor on every velocity. -/
  speedScale : Float32 := 1
  /-- The longest time in milliseconds that one tick advances. -/
  maxFrameMs : Float := 250
deriving BEq, Repr, Inhabited

/-- The swing of star opacities. -/
structure Twinkle where
  amplitude : Float32 := 0.35
  /-- In radians for each millisecond. -/
  frequency : Float32 := 0.002
deriving BEq, Repr, Inhabited

/-- Darkening toward the corners.  Distances are fractions of the half
diagonal. -/
structure Vignette where
  /-- Where darkening starts. -/
  inner : Float32 := 0.55
  /-- Where darkening reaches its strength. -/
  outer : Float32 := 1
  strength : Float32 := 0.6
  color : Pigment := .ofRgb .black
deriving BEq, Repr, Inhabited

/-- A soft band of light.  Lengths are fractions of the width of the view. -/
structure LightBeam where
  /-- The direction in degrees from the horizontal. -/
  angle : Float32 := 60
  /-- Half the width of the band. -/
  widthFraction : Float32 := 0.12
  /-- The distance of the middle of the band from the middle of the view. -/
  offsetFraction : Float32 := -0.2
  color : Pigment := .ofRgb (.ofBytes 200 210 255)
  alpha : Float32 := 0.08
deriving BEq, Repr, Inhabited

/-- What is painted over the particles. -/
structure Overlay where
  vignette : Option Vignette := none
  lightBeam : Option LightBeam := none
deriving BEq, Repr, Inhabited

/-- Everything that generation and animation of a field depend on. -/
structure FieldSettings where
  seed : UInt64 := 0
  layers : List StarLayer := [⟨500, ⟨0.3, 0.8⟩⟩, ⟨120, ⟨0.8, 1.5⟩⟩, ⟨25, ⟨1.5, 2⟩⟩]
  /-- The opacity that a star twinkles around. -/
  starAlpha : Range := ⟨0.3, 1⟩
  starSpeed : StarSpeed := {}
  glowEnabled : Bool := true
  /-- The reach of a glow in logical pixels. -/
  glow : Range := ⟨8, 20⟩
  palette : Palette := {}
  nebula : NebulaSettings := {}
  motion : MotionSettings := {}
  twinkle : Twinkle := {}
  /-- The band that every shown star opacity is moved into. -/
  alphaClamp : Range := ⟨0.1, 1⟩
  overlay : Overlay := {}
  background : Backdrop := .ofRgba .transparent
deriving BEq, Repr, Inhabited

namespace FieldSettings

/-- The number of stars of one generation. -/
def starCount (settings : FieldSettings) : Nat :=
  settings.layers.foldr (fun layer count => layer.count.toNat + count) 0

end FieldSettings

/-- The view at the start, in logical pixels. -/
structure WindowSettings where
  width : UInt32 := 1280
  height : UInt32 := 720
  pixelRatio : Float := 1
deriving BEq, Repr, Inhabited

structure HostSettings where
  /-- How long a view has to rest before it is laid out anew. -/
  resizeDebounceMs : Float := 120
  /-- The refresh rate of a simulated display. -/
  targetFps : UInt32 := 60
deriving BEq, Repr, Inhabited

structure DebugSettings where
  /-- Report the frame rate as information. -/
  showFps : Bool := false
  logLevel : String := "info"
deriving BEq, Repr, Inhabited

/-- All settings. -/
structure Settings where
  window : WindowSettings := {}
  field : FieldSettings := {}
  host : HostSettings := {}
  debug : DebugSettings := {}
deriving BEq, Repr, Inhabited

end Starfield
