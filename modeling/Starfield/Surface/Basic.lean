import Starfield.Fault
import Starfield.Geometry.Viewport
import Starfield.Settings.Basic

namespace Starfield

/-!
# Surfaces

A surface is whatever drawings are applied to.  Drawings are data in physical
pixels, so one surface can paint them and another can keep them.
-/

/-- One drawing, or a change of the surface as a whole. -/
inductive DrawCommand
  | resize (size : PhysicalSize)
  /-- Replace every pixel. -/
  | clear (color : Rgba)
  /-- A disc with a softened rim. -/
  | circle (center : Point Float32) (radius : Float32) (color : Rgba)
  /-- A disc that fades to nothing at its radius. -/
  | gradient (center : Point Float32) (radius : Float32) (color : Rgba)
  | vignette (vignette : Vignette)
  | lightBeam (beam : LightBeam)
deriving Repr, Inhabited

/-- A target of drawings. -/
class Surface (σ : Type) where
  size : σ -> PhysicalSize
  draw : DrawCommand -> σ -> Except Fault σ

namespace Surface

/-- Apply drawings in order. -/
def drawAll {σ : Type} [Surface σ] (commands : List DrawCommand) (surface : σ) : Except Fault σ :=
  commands.foldlM (fun surface command => draw command surface) surface

end Surface

end Starfield
