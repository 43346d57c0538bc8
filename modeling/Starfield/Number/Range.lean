import Starfield.Number.Rounding

namespace Starfield

/-!
# Ranges

A range is a closed interval that attributes are sampled from.  Its ends are
arbitrary numbers; that they are finite and in order is a matter of
validation.
-/

structure Range where
  min : Float32
  max : Float32
deriving BEq, Repr, Inhabited

namespace Range

/-- The point of the interval at the fraction `t`. -/
def lerp (range : Range) (t : Float32) : Float32 :=
  range.min + (range.max - range.min) * t

def contains (range : Range) (value : Float32) : Bool :=
  range.min ≤ value && value ≤ range.max

/-- Move a value into the interval. -/
def clamp (range : Range) (value : Float32) : Except Fault Float32 :=
  clampOrdered range.min range.max value

end Range

/-- An interval of counts, both ends included. -/
structure CountRange where
  min : UInt32
  max : UInt32
deriving BEq, DecidableEq, Repr, Inhabited

end Starfield
