import Starfield.Geometry.Point
import Starfield.Settings.Basic

namespace Starfield

/-!
# The view

A host reports sizes of zero while its window is minimized, and ratios below
one or no ratio at all on some displays.  A viewport replaces such readings,
so its sides and its ratio are always finite and at least one.
-/

/-- The size of a drawing surface in physical pixels. -/
structure PhysicalSize where
  width : UInt32
  height : UInt32
deriving BEq, DecidableEq, Repr, Inhabited

namespace PhysicalSize

def area (size : PhysicalSize) : Nat :=
  size.width.toNat * size.height.toNat

/-- Each side at least one pixel. -/
def atLeastOne (size : PhysicalSize) : PhysicalSize :=
  ⟨max size.width 1, max size.height 1⟩

end PhysicalSize

/-- A drawable area in logical pixels, and the physical pixels to one logical
pixel. -/
structure Viewport where
  width : Float32
  height : Float32
  pixelRatio : Float
  width_sound : 1 ≤ width ∧ width.isFinite
  height_sound : 1 ≤ height ∧ height.isFinite
  pixelRatio_sound : 1 ≤ pixelRatio ∧ pixelRatio.isFinite

namespace Viewport

/-- A side as reported, or one pixel if that is no side. -/
def soundSide (reading : Float32) : Float32 :=
  if 1 ≤ reading ∧ reading.isFinite then reading else 1

/-- A ratio as reported, or one if that is no ratio. -/
def soundRatio (reading : Float) : Float :=
  if 1 ≤ reading ∧ reading.isFinite then reading else 1

theorem soundSide_sound (reading : Float32) :
    1 ≤ soundSide reading ∧ (soundSide reading).isFinite := by
  unfold soundSide
  split
  · assumption
  · decide

theorem soundRatio_sound (reading : Float) :
    1 ≤ soundRatio reading ∧ (soundRatio reading).isFinite := by
  unfold soundRatio
  split
  · assumption
  · decide

/-- The viewport for the readings of a host. -/
def ofReadings (width height : Float32) (pixelRatio : Float) : Viewport where
  width := soundSide width
  height := soundSide height
  pixelRatio := soundRatio pixelRatio
  width_sound := soundSide_sound width
  height_sound := soundSide_sound height
  pixelRatio_sound := soundRatio_sound pixelRatio

/-- The smallest viewport. -/
def smallest : Viewport :=
  ofReadings 1 1 1

instance : Inhabited Viewport := ⟨smallest⟩

instance : BEq Viewport where
  beq v w := v.width == w.width && v.height == w.height && v.pixelRatio == w.pixelRatio

/-- A side in physical pixels, rounded to a whole number of at least one. -/
def physicalSide (side : Float32) (pixelRatio : Float) : UInt32 :=
  max (Double.round (widen side * pixelRatio)).toUInt32 1

def physicalSize (viewport : Viewport) : PhysicalSize :=
  ⟨physicalSide viewport.width viewport.pixelRatio,
    physicalSide viewport.height viewport.pixelRatio⟩

/-- The point lies in the view.  The right and the lower edge lie outside. -/
def contains (viewport : Viewport) (point : Point Float32) : Bool :=
  0 ≤ point.x && point.x < viewport.width && 0 ≤ point.y && point.y < viewport.height

end Viewport

namespace WindowSettings

/-- The viewport at the start. -/
def viewport (window : WindowSettings) : Viewport :=
  .ofReadings window.width.toFloat32 window.height.toFloat32 window.pixelRatio

end WindowSettings

end Starfield
