import Starfield.Fault
import Starfield.Number.Binary

namespace Starfield

open Float.Model (UnpackedFloat)

/-!
# Whole parts, remainders and bounds

Rounding to a whole number, the exact remainder of a division, and the
comparisons that give bounds.  Magnitudes from `2 ^ 23` (single) and `2 ^ 52`
(double) on are whole already and come back unchanged, as does the undefined
value.
-/

/-- Move `x` into `[low, high]`; an undefined number stays undefined. -/
def clamp {α : Type} [LT α] [DecidableLT α] (low high x : α) : α :=
  let raised := if x < low then low else x
  if high < raised then high else raised

/-- Move `x` into an interval whose ends must be in order.  An undefined end
is in no order. -/
def clampOrdered {α : Type} [LE α] [LT α] [DecidableLE α] [DecidableLT α]
    (low high x : α) : Except Fault α :=
  if low ≤ high then .ok (clamp low high x) else .error .crossedBounds

namespace Single

/-- Drop the fraction of a number below `2 ^ 23` in magnitude. -/
def truncateSmall (x : Float32) : Float32 :=
  if x < 0 then -((-x).toUInt32.toFloat32) else x.toUInt32.toFloat32

/-- The largest whole number that is not above `x`. -/
def floor (x : Float32) : Float32 :=
  if x.abs < 8388608 then
    let whole := truncateSmall x
    if x < whole then whole - 1 else whole
  else x

/-- The smallest whole number that is not below `x`. -/
def ceiling (x : Float32) : Float32 :=
  if x.abs < 8388608 then
    let whole := truncateSmall x
    if whole < x then whole + 1 else whole
  else x

/-- The nearest whole number; a half goes away from zero. -/
def round (x : Float32) : Float32 :=
  if x.abs < 8388608 then
    let whole := truncateSmall x
    if (x - whole).abs < 0.5 then whole else if x < 0 then whole - 1 else whole + 1
  else x

/-- The remainder of the exact quotient truncated toward zero.  It has the
sign of `x`, is smaller than `y` in magnitude and needs no rounding. -/
def remainder (x y : Float32) : Float32 :=
  match Binary.unpack x, Binary.unpack y with
  | .finite sign m e _, .finite _ n k _ =>
    let low := min e k
    let rest := (m <<< (e - low).toNat) % (n <<< (k - low).toNat)
    Binary.pack (UnpackedFloat.round .binary32 sign rest low)
  | .zero _, .finite .. => x
  | .zero _, .infinity _ => x
  | .finite .., .infinity _ => x
  | _, _ => Binary.undefined

/-- The remainder that is not negative: a negative one is raised by the
magnitude of the divisor, which may round it up to the divisor itself. -/
def modulo (x y : Float32) : Float32 :=
  let rest := remainder x y
  if rest < 0 then rest + y.abs else rest

/-- The larger of two numbers; an undefined one does not count. -/
def larger (x y : Float32) : Float32 :=
  if x < y || x.isNaN then y else x

/-- The smaller of two numbers; an undefined one does not count. -/
def smaller (x y : Float32) : Float32 :=
  if y < x || x.isNaN then y else x

/-- Move `x` into `[0, 1]`; an undefined number stays undefined. -/
def clampUnit (x : Float32) : Float32 :=
  clamp 0 1 x

/-- An angle in degrees as one in radians. -/
def radians (degrees : Float32) : Float32 :=
  degrees * 0.017453292519943295

end Single

namespace Double

/-- The nearest whole number; a half goes away from zero. -/
def round (x : Float) : Float :=
  if x.abs < 4503599627370496 then
    let whole := if x < 0 then -((-x).toUInt64.toFloat) else x.toUInt64.toFloat
    if (x - whole).abs < 0.5 then whole else if x < 0 then whole - 1 else whole + 1
  else x

/-- The larger of two numbers; an undefined one does not count. -/
def larger (x y : Float) : Float :=
  if x < y || x.isNaN then y else x

/-- The sine of an angle in radians: a number in `[-1, 1]` for every finite
angle, undefined for every other.  The library function is held to that range
because nothing is known of it here. -/
def sine (x : Float) : Float :=
  if x.isFinite then
    let value := x.sin
    if value.isNaN then 0 else clamp (-1) 1 value
  else Binary.undefined

end Double

end Starfield
