import Starfield.Proofs.Image.Encoders
import Starfield.Proofs.Surface.Sound

namespace Starfield

/-!
# Images that are read back

Nothing is known of the bytes in a file but that they are read as the image that
the encoder was given.  So what is read from the file of a surface is decided before
the encoder begins: the image has the form and the sides of the surface, and each
pixel has the four bytes of the color that the surface has there.
-/

/-- The bytes of the pixel in a column and a row of an image whose channels have
eight bits. -/
def Png.Image.pixel? (image : Image) (x y : ℕ) : Option (List UInt8) :=
  let channels := image.header.color.channels
  if x < image.header.width.toNat ∧ y < image.header.height.toNat then
    some ((image.bytes.drop (channels * (y * image.header.width.toNat + x))).take channels)
  else none

/-- The image has four channels of eight bits and the sides of the surface, and
every pixel is the quantized pixel of the surface in the same column and row. -/
structure Png.Image.Shows (image : Image) (surface : PixelSurface) : Prop where
  color : image.header.color = .rgba
  depth : image.header.depth = .eight
  width : image.header.width = surface.size.width
  height : image.header.height = surface.size.height
  bytes : image.bytes.length = 4 * surface.size.area
  pixels : forall x y : UInt32,
    image.pixel? x.toNat y.toNat = (surface.pixel? x y).map Rgba.bytes

namespace PixelSurface

theorem length_flatMap_bytes (colors : List Rgba) :
    (colors.flatMap Rgba.bytes).length = 4 * colors.length := by
  induction colors with
  | nil => rfl
  | cons color colors ih =>
      rw [List.flatMap_cons, List.length_append, ih, List.length_cons]
      change 4 + 4 * colors.length = 4 * (colors.length + 1)
      omega

/-- Each color has its four bytes at four times its place. -/
theorem take_drop_flatMap_bytes {colors : List Rgba} {index : ℕ} (inside : index < colors.length) :
    ((colors.flatMap Rgba.bytes).drop (4 * index)).take 4 = colors[index].bytes := by
  induction colors generalizing index with
  | nil => cases inside
  | cons color colors ih =>
      cases index with
      | zero => rfl
      | succ index =>
          have next := ih (Nat.lt_of_succ_lt_succ inside)
          rw [List.getElem_cons_succ, ← next, List.flatMap_cons, Nat.mul_succ, Nat.add_comm,
            ← List.drop_drop]
          rfl

variable {surface : PixelSurface}

theorem length_rgba8 (sound : surface.IsSound) :
    surface.rgba8.length = 4 * surface.size.area := by
  rw [rgba8, length_flatMap_bytes, Array.length_toList, sound.pixels_size]

theorem isFull_image (sound : surface.IsSound) : surface.image.IsFull where
  width := UInt32.lt_iff_toNat_lt.mpr sound.width_pos
  height := UInt32.lt_iff_toNat_lt.mpr sound.height_pos
  bytes := by
    change surface.rgba8.length = Png.Header.stride ⟨_, _, .rgba, .eight⟩ * _
    rw [length_rgba8 sound, Png.Header.stride_rgba8, Nat.mul_assoc]
    rfl

/-- The bytes of a quantized pixel are those of its color. -/
theorem image_pixel? (sound : surface.IsSound) (x y : UInt32) :
    surface.image.pixel? x.toNat y.toNat = (surface.pixel? x y).map Rgba.bytes := by
  by_cases within : x < surface.size.width ∧ y < surface.size.height
  · rcases sound.pixel?_eq_some within.1 within.2 with ⟨inside, found⟩
    have same := take_drop_flatMap_bytes (Array.length_toList ▸ inside)
    rw [found]
    exact (if_pos within).trans (congrArg some same)
  · have outside : surface.pixel? x y = none := if_neg within
    rw [outside]
    exact if_neg within

theorem shows_image (sound : surface.IsSound) : surface.image.Shows surface where
  color := rfl
  depth := rfl
  width := rfl
  height := rfl
  bytes := length_rgba8 sound
  pixels := image_pixel? sound

/-- The file of a surface is read as the quantized surface. -/
theorem decode_of_encodePng {encoder : Png.Encoder} {decode : Png.Decoder}
    (readsBack : encoder.ReadsBack decode) (sound : surface.IsSound) {file : ByteArray}
    (encoded : surface.encodePng encoder = .ok file) : decode file = some surface.image :=
  readsBack (isFull_image sound) encoded

/-- If the files of an encoder are read back, then the file of a surface is read as
an image with four channels of eight bits and with the sides of the surface, in which
every pixel is the quantized pixel of the surface in the same column and row. -/
theorem png_reads_back {encoder : Png.Encoder} {decode : Png.Decoder}
    (readsBack : encoder.ReadsBack decode) (sound : surface.IsSound) {file : ByteArray}
    (encoded : surface.encodePng encoder = .ok file) :
    Exists fun image => decode file = some image ∧ image.Shows surface := by
  have read : decode file = some surface.image := decode_of_encodePng readsBack sound encoded
  exact ⟨surface.image, read, shows_image sound⟩

/-- Three columns and two rows, with a last pixel that is no proper color. -/
def lopsided : PixelSurface where
  size := ⟨3, 2⟩
  pixels := #[.transparent, ⟨1, 0, 0, 1⟩, ⟨0, 1, 0, 1⟩, ⟨0, 0, 1, 1⟩, ⟨1, 1, 1, 1⟩, ⟨2, -1, 0 / 0, 0.5⟩]

theorem png_reads_back_lopsided :
    Png.Plain.encoder.ReadsBack Png.Plain.decode? ∧ lopsided.IsSound ∧
      Exists fun file => lopsided.encodePng Png.Plain.encoder = .ok file ∧
        Exists fun image => Png.Plain.decode? file = some image ∧
          image.header = ⟨3, 2, .rgba, .eight⟩ ∧ image.bytes.length = 24 ∧
          image.pixel? 0 1 = some [0, 0, 255, 255] ∧ image.pixel? 2 1 = some [255, 0, 0, 128] := by
  have sound : lopsided.IsSound := ⟨by decide, by decide, by decide, rfl⟩
  rcases Png.Plain.acceptsFull (isFull_image sound) rfl rfl with ⟨file, encoded⟩
  rcases png_reads_back Png.Plain.readsBack sound encoded with ⟨image, read, shows⟩
  refine ⟨Png.Plain.readsBack, sound, file, encoded, image, read, ?_, shows.bytes,
    (shows.pixels 0 1).trans (by decide +kernel), (shows.pixels 2 1).trans (by decide +kernel)⟩
  rcases image with ⟨⟨width, height, color, depth⟩, bytes⟩
  cases shows.color
  cases shows.depth
  cases shows.width
  cases shows.height
  rfl

end PixelSurface

end Starfield
