import Starfield.Particle.Population
import Starfield.Picture.Frame
import Starfield.Settings.Validation

namespace Starfield

/-!
# The particle field

A field is configured once, laid out anew whenever its view changes, and moved
once for each refresh of the display.  Randomness is used by layouts only; a
tick is arithmetic on the particles and the time.
-/

structure ParticleField where
  settings : FieldSettings
  generator : Generator
  viewport : Viewport
  population : Population Float Float32
  /-- The number of layouts so far. -/
  generation : Nat

namespace ParticleField

/-- A field without particles, if its settings are accepted. -/
def configure (settings : FieldSettings) : Except SettingsError ParticleField := do
  settings.validate
  return {
    settings
    generator := .ofSeed settings.seed
    viewport := .smallest
    population := {}
    generation := 0 }

/-- Lay the field out for a view.  Earlier particles are dropped. -/
def resize (field : ParticleField) (viewport : Viewport) : Except Fault ParticleField := do
  let (population, generator) <- (Population.sample field.settings viewport).run field.generator
  return { field with
    viewport, population, generator
    generation := field.generation + 1 }

/-- The opacity that a star is shown with. -/
def starAlpha (field : ParticleField) (star : Star Float32) (timeMs : Float) :
    Except Fault Float32 :=
  field.settings.alphaClamp.clamp (star.twinkleAlpha field.settings.twinkle timeMs)

/-- The discs of a nebula, whether they are in sight or not. -/
def nebulaDiscs (nebula : Nebula Float32) : List GradientDisc :=
  nebula.blobs.map fun blob =>
    ⟨nebula.center + blob.offset, blob.radius, blob.color.withAlpha (blob.alpha * nebula.alpha)⟩

/-- The disc of a star. -/
def starDisc (field : ParticleField) (timeMs : Float) (star : Star Float32) :
    Except Fault StarDisc := do
  let alpha <- field.starAlpha star timeMs
  return ⟨star.position, star.size, star.color.withAlpha alpha, star.glow⟩

/-- The frame of the particles as they are.  Discs out of sight are left out. -/
def describe (field : ParticleField) (timeMs : Float) : Except Fault Frame := do
  let stars <- field.population.stars.mapM (field.starDisc timeMs)
  return {
    viewport := field.viewport
    timestampMs := timeMs
    background := field.settings.background.rgba
    nebulae := (field.population.nebulae.flatMap nebulaDiscs).filter
      (·.intersects field.viewport)
    stars
    overlay := field.settings.overlay }

/-- Move the particles to a time. -/
def advance (field : ParticleField) (timeMs : Float) : Except Fault ParticleField := do
  let population <- field.population.tick field.settings.motion.maxFrameMs
    field.settings.motion.speedScale ⟨field.viewport.width, field.viewport.height⟩ timeMs
  return { field with population }

/-- Move the particles to a time and describe them. -/
def tick (field : ParticleField) (timeMs : Float) : Except Fault (Frame × ParticleField) := do
  let moved <- field.advance timeMs
  return (<- moved.describe timeMs, moved)

end ParticleField

end Starfield
