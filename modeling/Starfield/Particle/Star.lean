import Starfield.Geometry.Viewport
import Starfield.Particle.Motion
import Starfield.Random.Sampler
import Starfield.Settings.Basic

namespace Starfield

/-!
# Stars

A star is a point of light that drifts and twinkles.  Its place and its
velocity are generic in the measure; what it looks like is not.
-/

structure Star (α : Type) where
  position : Point α
  /-- The drift for each reference frame. -/
  velocity : Point α
  size : Float32
  /-- The opacity that the star twinkles around. -/
  baseAlpha : Float32
  color : Rgb
  /-- The reach of the glow; zero for none. -/
  glow : Float32
  /-- The index of the layer that the star belongs to. -/
  layer : Nat
deriving BEq, Repr, Inhabited

namespace Star

section Drift

variable {α : Type} [Measure α]

/-- The place after some steps.  A star that leaves the view comes back at the
opposite edge. -/
def advance (star : Star α) (steps : α) (extent : Point α) : Star α :=
  let next := Motion.drifted star.position star.velocity steps
  { star with position := next.zipWith Motion.wrap extent }

end Drift

/-- The opacity at a time, before it is moved into its band.  The phase
depends on the place, so that neighbouring stars do not swing together. -/
def twinkleAlpha (star : Star Float32) (twinkle : Twinkle) (timeMs : Float) : Float32 :=
  let phase := timeMs * widen twinkle.frequency + widen star.position.x + widen star.position.y
  star.baseAlpha + twinkle.amplitude * narrow (Double.sine phase)

section Sampling

variable {σ : Type} [WordSource σ]

/-- Draw a star of a layer.  The glow is drawn even when it is not shown, so
that showing it leaves the rest of the stream as it is. -/
def sample (settings : FieldSettings) (viewport : Viewport) (index : Nat) (layer : StarLayer) :
    SamplerFrom σ (Star Float32) := do
  let color <- Sampler.choice settings.palette.stars
  let x <- Sampler.fraction
  let y <- Sampler.fraction
  let size <- Sampler.inRange layer.size
  let baseAlpha <- Sampler.inRange settings.starAlpha
  let velocityX <- Sampler.inRange settings.starSpeed.x
  let velocityY <- Sampler.inRange settings.starSpeed.y
  let glow <- Sampler.inRange settings.glow
  return {
    position := ⟨Motion.wrap (x * viewport.width) viewport.width,
      Motion.wrap (y * viewport.height) viewport.height⟩
    velocity := ⟨velocityX, velocityY⟩
    size, baseAlpha, color
    glow := if settings.glowEnabled then glow else 0
    layer := index }

/-- Draw the stars of layers whose first has the given index. -/
def sampleLayers (settings : FieldSettings) (viewport : Viewport) (index : Nat) :
    List StarLayer -> SamplerFrom σ (List (Star Float32))
  | [] => pure []
  | layer :: layers => do
    let stars <- Sampler.replicate layer.count.toNat (sample settings viewport index layer)
    return stars ++ (<- sampleLayers settings viewport (index + 1) layers)

/-- Draw all stars of a view, layer by layer. -/
def sampleAll (settings : FieldSettings) (viewport : Viewport) :
    SamplerFrom σ (List (Star Float32)) :=
  sampleLayers settings viewport 0 settings.layers

end Sampling

end Star

end Starfield
