import Starfield.Surface.Basic

namespace Starfield

/-!
# Pixel surfaces

A rectangle of colors that drawings are laid over.  Opacities are not
multiplied into the other channels.  Every drawing is a color and a coverage
for each pixel center; discs look only at the pixels of the square around
them.
-/

structure PixelSurface where
  size : PhysicalSize
  /-- Row by row. -/
  pixels : Array Rgba
deriving Inhabited

namespace PixelSurface

/-- A transparent surface with sides of at least one pixel. -/
def ofSize (size : PhysicalSize) : Except Fault PixelSurface :=
  let size := size.atLeastOne
  if size.area < UInt32.size then .ok ⟨size, Array.replicate size.area .transparent⟩
  else .error .areaOverflow

/-- The color in a column and a row. -/
def pixel? (surface : PixelSurface) (x y : UInt32) : Option Rgba :=
  if x < surface.size.width ∧ y < surface.size.height then
    surface.pixels[y.toNat * surface.size.width.toNat + x.toNat]?
  else none

/-! ## Laying one color over another -/

/-- Lay a color of some strength over another.  What stays transparent has no
color. -/
def composite (color : Rgba) (strength : Float32) (below : Rgba) : Rgba :=
  let alpha := strength + below.alpha * (1 - strength)
  if alpha ≤ 0 then .transparent
  else
    let channel (above under : Float32) : Float32 :=
      (above * strength + under * below.alpha * (1 - strength)) / alpha
    ⟨channel color.red below.red, channel color.green below.green,
      channel color.blue below.blue, alpha⟩

/-- Lay a color over one pixel.  Coverage scales its opacity. -/
def blend (color : Rgba) (coverage : Float32) (x y : Nat) (surface : PixelSurface) :
    Except Fault PixelSurface :=
  let strength := Single.clampUnit (color.alpha * coverage)
  if strength ≤ 0 then .ok surface
  else
    let index := y * surface.size.width.toNat + x
    if inside : index < surface.pixels.size then
      let below := surface.pixels[index]
      let mixed := composite color strength below
      .ok { surface with pixels := surface.pixels.set index mixed inside }
    else .error .pixelOutside

/-! ## Covering pixels -/

/-- Columns and rows of pixels; the far ends are excluded. -/
structure Box where
  left : Nat
  top : Nat
  right : Nat
  bottom : Nat
deriving Repr

/-- All pixels. -/
def wholeBox (surface : PixelSurface) : Box :=
  ⟨0, 0, surface.size.width.toNat, surface.size.height.toNat⟩

/-- The pixels of the square around a center, if there are any. -/
def boxAround? (surface : PixelSurface) (center : Point Float32) (reach : Float32) : Option Box :=
  let left := Single.larger (Single.floor (center.x - reach)) 0
  let top := Single.larger (Single.floor (center.y - reach)) 0
  let right := Single.smaller (Single.ceiling (center.x + reach)) surface.size.width.toFloat32
  let bottom := Single.smaller (Single.ceiling (center.y + reach)) surface.size.height.toFloat32
  if left < right ∧ top < bottom then
    some ⟨left.toUInt32.toNat, top.toUInt32.toNat, right.toUInt32.toNat, bottom.toUInt32.toNat⟩
  else none

/-- The center of a pixel. -/
def pixelCenter (x y : Nat) : Point Float32 :=
  ⟨(UInt32.ofNat x).toFloat32 + 0.5, (UInt32.ofNat y).toFloat32 + 0.5⟩

/-- Lay a color over one pixel where it covers the pixel at all. -/
def paintPixel (color : Rgba) (coverage : Point Float32 -> Float32) (x y : Nat)
    (surface : PixelSurface) : Except Fault PixelSurface :=
  let amount := coverage (pixelCenter x y)
  if 0 < amount then blend color amount x y surface else .ok surface

/-- Paint `count` pixels of a row. -/
def paintRow (color : Rgba) (coverage : Point Float32 -> Float32) (y x : Nat) :
    (count : Nat) -> PixelSurface -> Except Fault PixelSurface
  | 0, surface => .ok surface
  | count + 1, surface => do
    paintRow color coverage y (x + 1) count (<- paintPixel color coverage x y surface)

/-- Paint `count` rows of a box. -/
def paintRows (color : Rgba) (coverage : Point Float32 -> Float32) (left width y : Nat) :
    (count : Nat) -> PixelSurface -> Except Fault PixelSurface
  | 0, surface => .ok surface
  | count + 1, surface => do
    paintRows color coverage left width (y + 1) count
      (<- paintRow color coverage y left width surface)

/-- Lay a color over the pixels of a box, each by its coverage. -/
def paint (box : Box) (color : Rgba) (coverage : Point Float32 -> Float32)
    (surface : PixelSurface) : Except Fault PixelSurface :=
  paintRows color coverage box.left (box.right - box.left) box.top (box.bottom - box.top) surface

/-! ## Drawings -/

/-- Another size, with sides of at least one pixel.  A surface of that size
stays as it is, any other becomes transparent. -/
def resize (size : PhysicalSize) (surface : PixelSurface) : Except Fault PixelSurface :=
  if size.atLeastOne = surface.size then .ok surface else ofSize size

def clear (color : Rgba) (surface : PixelSurface) : PixelSurface :=
  { surface with
    pixels := Array.replicate surface.pixels.size (color.withAlpha color.alpha) }

/-- How much of a pixel a disc covers; the rim is half a pixel soft. -/
def circleCoverage (center : Point Float32) (radius : Float32) (p : Point Float32) : Float32 :=
  Single.clampUnit (radius + 0.5 - p.distance center)

/-- What is left of a gradient at a pixel. -/
def gradientFalloff (center : Point Float32) (radius : Float32) (p : Point Float32) : Float32 :=
  1 - p.distance center / radius

/-- Nothing is drawn without a radius or an opacity. -/
def isVisibleDisc (radius : Float32) (color : Rgba) : Bool :=
  !(radius ≤ 0) && !(color.alpha ≤ 0)

def fillCircle (center : Point Float32) (radius : Float32) (color : Rgba)
    (surface : PixelSurface) : Except Fault PixelSurface :=
  if isVisibleDisc radius color then
    match surface.boxAround? center (radius + 1) with
    | some box => surface.paint box color (circleCoverage center radius)
    | none => .ok surface
  else .ok surface

def fillGradient (center : Point Float32) (radius : Float32) (color : Rgba)
    (surface : PixelSurface) : Except Fault PixelSurface :=
  if isVisibleDisc radius color then
    match surface.boxAround? center radius with
    | some box => surface.paint box color (gradientFalloff center radius)
    | none => .ok surface
  else .ok surface

/-- The smooth step from 0 at `near` to 1 at `far`; a hard one if these meet. -/
def smoothStep (near far x : Float32) : Float32 :=
  if far ≤ near then if near ≤ x then 1 else 0
  else
    let t := Single.clampUnit ((x - near) / (far - near))
    t * t * (3 - 2 * t)

/-- The sides as numbers. -/
def sides (surface : PixelSurface) : Point Float32 :=
  ⟨surface.size.width.toFloat32, surface.size.height.toFloat32⟩

def applyVignette (vignette : Vignette) (surface : PixelSurface) : Except Fault PixelSurface :=
  if vignette.strength ≤ 0 then .ok surface
  else
    let middle := surface.sides.scale 0.5
    let halfDiagonal := middle.length
    surface.paint surface.wholeBox (vignette.color.rgb.withAlpha vignette.strength) fun p =>
      smoothStep vignette.inner vignette.outer (p.distance middle / halfDiagonal)

def fillLightBeam (beam : LightBeam) (surface : PixelSurface) : Except Fault PixelSurface :=
  let width := surface.sides.x
  let halfWidth := beam.widthFraction * width
  if halfWidth ≤ 0 ∨ beam.alpha ≤ 0 then .ok surface
  else
    let angle := Single.radians beam.angle
    let normal := Point.perpendicular ⟨angle.cos, angle.sin⟩
    let origin : Point Float32 := ⟨width * (0.5 + beam.offsetFraction), surface.sides.y * 0.5⟩
    surface.paint surface.wholeBox (beam.color.rgb.withAlpha beam.alpha) fun p =>
      1 - ((p - origin).dot normal).abs / halfWidth

instance : Surface PixelSurface where
  size surface := surface.size
  draw
    | .resize size => resize size
    | .clear color => fun surface => .ok (clear color surface)
    | .circle center radius color => fillCircle center radius color
    | .gradient center radius color => fillGradient center radius color
    | .vignette vignette => applyVignette vignette
    | .lightBeam beam => fillLightBeam beam

end PixelSurface

end Starfield
