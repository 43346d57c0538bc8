import Starfield.Geometry.Viewport
import Starfield.Settings.Basic

namespace Starfield

/-!
# Frames

A frame describes everything that is painted for one moment, in logical pixels
and with final colors.  Painting a frame needs nothing else.
-/

/-- A filled disc with an optional glow around it. -/
structure StarDisc where
  center : Point Float32
  radius : Float32
  color : Rgba
  /-- The reach of the glow behind the radius; zero for none. -/
  glow : Float32
deriving BEq, Repr, Inhabited

/-- A disc that fades from its color in the center to nothing at its radius. -/
structure GradientDisc where
  center : Point Float32
  radius : Float32
  color : Rgba
deriving BEq, Repr, Inhabited

namespace GradientDisc

/-- Some part of the square around the disc lies in the view. -/
def intersects (disc : GradientDisc) (viewport : Viewport) : Bool :=
  0 < disc.center.x + disc.radius && 0 < disc.center.y + disc.radius &&
    disc.center.x - disc.radius < viewport.width && disc.center.y - disc.radius < viewport.height

end GradientDisc

structure Frame where
  viewport : Viewport
  timestampMs : Float
  background : Rgba := .transparent
  /-- Painted first. -/
  nebulae : List GradientDisc := []
  /-- Painted over the nebulae. -/
  stars : List StarDisc := []
  /-- Painted last. -/
  overlay : Overlay := {}
deriving Inhabited

namespace Frame

/-- The number of drawings that the frame needs behind the clearing. -/
def drawCallCount (frame : Frame) : Nat :=
  frame.nebulae.length + frame.stars.length +
    (frame.stars.filter fun star => 0 < star.glow).length +
    frame.overlay.vignette.toList.length + frame.overlay.lightBeam.toList.length

end Frame

end Starfield
