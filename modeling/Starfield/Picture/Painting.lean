import Starfield.Picture.Frame
import Starfield.Surface.Basic

namespace Starfield

/-!
# Painting frames

A frame is painted from back to front: the background, the nebulae, each star
over its glow, the overlays.  Logical pixels become physical ones on the way.
-/

/-- The opacity of a glow as a fraction of that of its star. -/
def glowStrength : Float32 := 0.35

namespace StarDisc

/-- The color of the glow in its center. -/
def haloColor (star : StarDisc) : Rgba :=
  star.color.withAlpha (star.color.alpha * glowStrength)

end StarDisc

namespace Frame

variable {σ : Type} [Surface σ]

/-- Give the surface the size of the view. -/
def fit (frame : Frame) (surface : σ) : Except Fault σ :=
  let size := frame.viewport.physicalSize
  if Surface.size surface = size then .ok surface else Surface.draw (.resize size) surface

def paintGradient (scale : Float32) (surface : σ) (disc : GradientDisc) : Except Fault σ :=
  Surface.draw (.gradient (disc.center.scale scale) (disc.radius * scale) disc.color) surface

/-- Paint a star over its glow, if it has one. -/
def paintStar (scale : Float32) (surface : σ) (star : StarDisc) : Except Fault σ := do
  let center := star.center.scale scale
  let surface <-
    if 0 < star.glow then
      Surface.draw (.gradient center ((star.radius + star.glow) * scale) star.haloColor) surface
    else pure surface
  Surface.draw (.circle center (star.radius * scale) star.color) surface

/-- Paint a frame.  What the surface showed before does not matter. -/
def paint (frame : Frame) (surface : σ) : Except Fault σ := do
  let scale := narrow frame.viewport.pixelRatio
  let surface <- frame.fit surface
  let surface <- Surface.draw (.clear frame.background) surface
  let surface <- frame.nebulae.foldlM (paintGradient scale) surface
  let surface <- frame.stars.foldlM (paintStar scale) surface
  let surface <- match frame.overlay.vignette with
    | some vignette => Surface.draw (.vignette vignette) surface
    | none => pure surface
  match frame.overlay.lightBeam with
  | some beam => Surface.draw (.lightBeam beam) surface
  | none => pure surface

end Frame

end Starfield
