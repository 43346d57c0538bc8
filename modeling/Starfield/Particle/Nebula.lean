import Starfield.Geometry.Viewport
import Starfield.Particle.Motion
import Starfield.Random.Sampler
import Starfield.Settings.Basic

namespace Starfield

/-!
# Nebulae

A nebula is a cluster of soft discs that drift together.  Its margin is large
enough to hold every disc, so a nebula whose center has left the view by more
than the margin is out of sight.
-/

/-- One soft disc of a nebula. -/
structure Blob (α : Type) where
  /-- The displacement from the center of the nebula. -/
  offset : Point α
  radius : α
  /-- The opacity in the middle, before that of the nebula is applied. -/
  alpha : Float32
  color : Rgb
deriving BEq, Repr, Inhabited

structure Nebula (α : Type) where
  center : Point α
  /-- The drift for each reference frame. -/
  velocity : Point α
  /-- The opacity of the whole nebula. -/
  alpha : Float32
  blobs : List (Blob α)
  /-- How far the center may leave the view on each axis before it wraps. -/
  margin : Point α
deriving BEq, Repr, Inhabited

section Drift

variable {α : Type} [Measure α]

/-- The distance on each axis from the center of the nebula to the far edge. -/
def Blob.extent (blob : Blob α) : Point α :=
  ⟨Measure.magnitude blob.offset.x + blob.radius, Measure.magnitude blob.offset.y + blob.radius⟩

/-- The largest extent of some blobs on each axis. -/
def Nebula.marginOf (blobs : List (Blob α)) : Point α :=
  blobs.foldl (fun margin blob => margin.zipWith Measure.larger blob.extent) ⟨0, 0⟩

/-- The place after some steps. -/
def Nebula.advance (nebula : Nebula α) (steps : α) (extent : Point α) : Nebula α :=
  let next := Motion.drifted nebula.center nebula.velocity steps
  { nebula with
    center := ⟨Motion.wrapWithMargin next.x extent.x nebula.margin.x,
      Motion.wrapWithMargin next.y extent.y nebula.margin.y⟩ }

/-- Where the blobs are. -/
def Nebula.blobCenters (nebula : Nebula α) : List (Point α) :=
  nebula.blobs.map fun blob => nebula.center + blob.offset

end Drift

section Sampling

variable {σ : Type} [WordSource σ]

/-- Draw a blob. -/
def Blob.sample (settings : NebulaSettings) (palette : Palette) :
    SamplerFrom σ (Blob Float32) := do
  let x <- Sampler.inRange settings.blobOffsetX
  let y <- Sampler.inRange settings.blobOffsetY
  let radius <- Sampler.inRange settings.blobRadius
  let alpha <- Sampler.inRange settings.blobAlpha
  let hue <- Sampler.inRange palette.nebulaHue
  return {
    offset := ⟨x, y⟩
    radius, alpha
    color := .ofHsl hue palette.nebulaSaturation palette.nebulaLightness }

namespace Nebula

/-- Draw a nebula in the upper part of a view. -/
def sample (settings : FieldSettings) (viewport : Viewport) :
    SamplerFrom σ (Nebula Float32) := do
  let x <- Sampler.fraction
  let y <- Sampler.fraction
  let alpha <- Sampler.inRange settings.nebula.alpha
  let velocityX <- Sampler.inRange settings.nebula.speedX
  let velocityY <- Sampler.inRange settings.nebula.speedY
  let count <- Sampler.count settings.nebula.blobs
  let blobs <- Sampler.replicate count (Blob.sample settings.nebula settings.palette)
  return {
    center := ⟨x * viewport.width, y * (viewport.height * settings.nebula.spawnHeightFraction)⟩
    velocity := ⟨velocityX, velocityY⟩
    alpha, blobs
    margin := marginOf blobs }

/-- Draw all nebulae of a view. -/
def sampleAll (settings : FieldSettings) (viewport : Viewport) :
    SamplerFrom σ (List (Nebula Float32)) :=
  Sampler.replicate settings.nebula.count.toNat (sample settings viewport)

end Nebula

end Sampling

end Starfield
