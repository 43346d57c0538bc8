import Starfield.Geometry.Point
import Starfield.Number.Rounding

namespace Starfield

/-!
# Motion

Particles drift by steps of one reference frame, a sixtieth of a second, and
come back at the opposite edge when they leave their band.  The arithmetic is
stated over any measure and any clock, so that it can be read in single and
double precision, as it runs, and over exact numbers.  Nothing here rounds on
its own account: rounding is a property of the measure.
-/

/-- Numbers that places and displacements are measured in. -/
class Measure (α : Type) extends Add α, Sub α, Mul α, Zero α, LE α, LT α where
  decidableLE : DecidableLE α
  decidableLT : DecidableLT α
  two : α
  magnitude : α -> α
  /-- The remainder of a division that is not negative, before rounding. -/
  modulo : α -> α -> α
  /-- The larger of two numbers. -/
  larger : α -> α -> α

attribute [reducible, instance] Measure.decidableLE Measure.decidableLT

instance : Measure Float32 where
  zero := 0
  decidableLE := inferInstance
  decidableLT := inferInstance
  two := 2
  magnitude x := x.abs
  modulo := Single.modulo
  larger := Single.larger

/-- Clock readings in milliseconds for a measure. -/
class Clock (τ : Type) (α : outParam Type) extends Sub τ, Div τ, Zero τ, LE τ, LT τ where
  decidableLE : DecidableLE τ
  decidableLT : DecidableLT τ
  isFinite : τ -> Bool
  /-- The duration of a reference frame. -/
  referenceFrame : τ
  toMeasure : τ -> α

attribute [reducible, instance] Clock.decidableLE Clock.decidableLT

instance : Clock Float Float32 where
  zero := 0
  decidableLE := inferInstance
  decidableLT := inferInstance
  isFinite x := x.isFinite
  referenceFrame := 1000 / 60
  toMeasure := narrow

namespace Motion

section Band

variable {α : Type} [Measure α]

/-- Bring a coordinate into `[0, extent)`.  The remainder of a small negative
number can round up to the extent itself, which is the edge that zero stands
for. -/
def wrap (value extent : α) : α :=
  let rest := Measure.modulo value extent
  if extent ≤ rest then 0 else rest

/-- Bring a coordinate into `[-margin, extent + margin)`. -/
def wrapWithMargin (value extent margin : α) : α :=
  wrap (value + margin) (extent + Measure.two * margin) - margin

/-- Where a drift of some steps leads to before any wrapping. -/
def drifted (position velocity : Point α) (steps : α) : Point α :=
  position + velocity.scale steps

end Band

/-- The number of reference frames to advance for an elapsed time.  A time
that is negative or not finite counts as none, and no more than `longest` is
advanced at once, so that a host that stood still does not throw particles
across the view. -/
def frameSteps {τ α : Type} [Clock τ α] [Measure α] (elapsed longest : τ) (scale : α) :
    Except Fault α := do
  let time <- if Clock.isFinite elapsed then clampOrdered 0 longest elapsed else pure 0
  return Clock.toMeasure (time / Clock.referenceFrame) * scale

end Motion

end Starfield
