import Starfield.Particle.Nebula
import Starfield.Particle.Star

namespace Starfield

/-!
# Populations

The particles of a view and the time they were last moved.  A tick moves all
of them by the time that has passed, and by none if it is the first one.
-/

structure Population (τ α : Type) where
  stars : List (Star α) := []
  nebulae : List (Nebula α) := []
  lastTick : Option τ := none
deriving Inhabited

namespace Population

section Drift

variable {τ α : Type} [Measure α] [Clock τ α]

/-- Move every particle by some steps. -/
def advance (population : Population τ α) (steps : α) (extent : Point α) : Population τ α :=
  { population with
    stars := population.stars.map (·.advance steps extent)
    nebulae := population.nebulae.map (·.advance steps extent) }

/-- The time since the last tick. -/
def elapsed (population : Population τ α) (time : τ) : τ :=
  match population.lastTick with
  | some last => time - last
  | none => 0

/-- Move every particle to a time. -/
def tick (population : Population τ α) (longest : τ) (scale : α) (extent : Point α) (time : τ) :
    Except Fault (Population τ α) := do
  let steps <- Motion.frameSteps (population.elapsed time) longest scale
  return { population.advance steps extent with lastTick := some time }

end Drift

/-- Draw the particles of a view, stars first. -/
def sample {σ : Type} [WordSource σ] (settings : FieldSettings) (viewport : Viewport) :
    SamplerFrom σ (Population Float Float32) := do
  let stars <- Star.sampleAll settings viewport
  let nebulae <- Nebula.sampleAll settings viewport
  return { stars, nebulae }

end Population

end Starfield
