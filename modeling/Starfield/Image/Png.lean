import Starfield.Surface.Pixel

namespace Starfield

/-!
# Images

An image is a rectangle of pixels in the form that its header tells.  The format
of PNG files is not a matter of this library: an encoder takes a header and then
the rows, and it answers with a file or with the reason for which it refuses.
Surfaces are handed to it with four channels of eight bits.
-/

namespace Png

/-- The channels of a pixel. -/
inductive ColorType
  | grayscale
  | rgb
  /-- The place of a color in a palette. -/
  | indexed
  | grayscaleAlpha
  | rgba
deriving DecidableEq, Repr, Inhabited

/-- How many channels a pixel has. -/
def ColorType.channels : ColorType -> Nat
  | grayscale | indexed => 1
  | grayscaleAlpha => 2
  | rgb => 3
  | rgba => 4

/-- The bits of a channel. -/
inductive BitDepth
  | one
  | two
  | four
  | eight
  | sixteen
deriving DecidableEq, Repr, Inhabited

def BitDepth.bits : BitDepth -> Nat
  | one => 1
  | two => 2
  | four => 4
  | eight => 8
  | sixteen => 16

/-- The form of an image. -/
structure Header where
  width : UInt32
  height : UInt32
  color : ColorType
  depth : BitDepth
deriving DecidableEq, Repr, Inhabited

namespace Header

/-- The bytes of a row.  Its pixels have no bits between them; a rest of the last
byte is not used. -/
def stride (header : Header) : Nat :=
  (header.width.toNat * header.color.channels * header.depth.bits + 7) / 8

/-- The bytes of all rows. -/
def size (header : Header) : Nat :=
  header.stride * header.height.toNat

end Header

/-- A header, and the rows from the top to the bottom. -/
structure Image where
  header : Header
  bytes : List UInt8
deriving DecidableEq, Repr, Inhabited

/-- Why an image is refused, in the words of the encoder. -/
structure EncodingError where
  message : String
deriving DecidableEq, Repr, Inhabited

/-- Something that writes PNG files in memory. -/
structure Encoder where
  /-- A file that is being written. -/
  Writer : Type
  writeHeader : Header -> Except EncodingError Writer
  writeImageData : Writer -> List UInt8 -> Except EncodingError Writer
  finish : Writer -> Except EncodingError ByteArray

/-- Write a file with one image. -/
def Encoder.encode (encoder : Encoder) (image : Image) : Except EncodingError ByteArray := do
  let begun <- encoder.writeHeader image.header
  let written <- encoder.writeImageData begun image.bytes
  encoder.finish written

end Png

namespace PixelSurface

/-- The quantized pixels, row by row. -/
def rgba8 (surface : PixelSurface) : List UInt8 :=
  surface.pixels.toList.flatMap Rgba.bytes

/-- The quantized surface. -/
def image (surface : PixelSurface) : Png.Image where
  header := ⟨surface.size.width, surface.size.height, .rgba, .eight⟩
  bytes := surface.rgba8

/-- The surface as a PNG file. -/
def encodePng (encoder : Png.Encoder) (surface : PixelSurface) :
    Except Png.EncodingError ByteArray :=
  encoder.encode surface.image

end PixelSurface

end Starfield
