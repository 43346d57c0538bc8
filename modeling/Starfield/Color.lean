import Starfield.Number.Rounding

namespace Starfield

/-!
# Colors

Colors have red, green and blue channels, and some have an opacity (`alpha`)
that is not multiplied into the others.  A channel between 0 and 1 can be
shown; other values are kept as they are until they are quantized.
-/

structure Rgb where
  red : Float32
  green : Float32
  blue : Float32
deriving BEq, Repr, Inhabited

structure Rgba where
  red : Float32
  green : Float32
  blue : Float32
  alpha : Float32
deriving BEq, Repr, Inhabited

/-- A channel that can be shown. -/
def isChannel (x : Float32) : Bool :=
  x.isFinite && 0 ≤ x && x ≤ 1

/-- The eight-bit value nearest to a channel.  An undefined channel is dark. -/
def channelByte (x : Float32) : UInt8 :=
  (Single.round (Single.clampUnit x * 255)).toUInt8

namespace Rgb

def white : Rgb := ⟨1, 1, 1⟩

def black : Rgb := ⟨0, 0, 0⟩

/-- A color with eight-bit channels. -/
def ofBytes (red green blue : UInt8) : Rgb :=
  ⟨red.toUInt32.toFloat32 / 255, green.toUInt32.toFloat32 / 255, blue.toUInt32.toFloat32 / 255⟩

/-- Attach an opacity, moved into `[0, 1]`. -/
def withAlpha (color : Rgb) (alpha : Float32) : Rgba :=
  ⟨color.red, color.green, color.blue, Single.clampUnit alpha⟩

/-- Every channel can be shown. -/
def isNormalized (color : Rgb) : Bool :=
  isChannel color.red && isChannel color.green && isChannel color.blue

/-- One channel of a hue: rising over a sixth of the circle, full until the
half, falling until two thirds. -/
def hueChannel (low high turn : Float32) : Float32 :=
  let t := Single.modulo turn 1
  if t < 1 / 6 then low + (high - low) * 6 * t
  else if t < 0.5 then high
  else if t < 2 / 3 then low + (high - low) * (2 / 3 - t) * 6
  else low

/-- The color of a hue in degrees, a saturation and a lightness. -/
def ofHsl (hue saturation lightness : Float32) : Rgb :=
  let turn := Single.modulo hue 360 / 360
  let s := Single.clampUnit saturation
  let l := Single.clampUnit lightness
  if s == 0 then ⟨l, l, l⟩
  else
    let high := if l < 0.5 then l * (1 + s) else l + s - l * s
    let low := 2 * l - high
    ⟨hueChannel low high (turn + 1 / 3), hueChannel low high turn,
      hueChannel low high (turn - 1 / 3)⟩

end Rgb

namespace Rgba

def transparent : Rgba := ⟨0, 0, 0, 0⟩

def rgb (color : Rgba) : Rgb :=
  ⟨color.red, color.green, color.blue⟩

/-- The same color with another opacity. -/
def withAlpha (color : Rgba) (alpha : Float32) : Rgba :=
  color.rgb.withAlpha alpha

/-- The four bytes of a quantized color. -/
def bytes (color : Rgba) : List UInt8 :=
  [channelByte color.red, channelByte color.green, channelByte color.blue,
    channelByte color.alpha]

end Rgba

end Starfield
