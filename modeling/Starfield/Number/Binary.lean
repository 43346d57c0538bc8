namespace Starfield

open Float.Model (Format UnpackedFloat)

/-!
# Single and double precision

Measurements of the field are single precision numbers, clock readings are
double precision ones.  This module names what the two widths share and
converts between them.  A conversion takes the exact value apart and rounds it
to the other width once, ties to the even mantissa, so that widening never
changes a value and narrowing is the nearest one.  There is one undefined
value (NaN) in each width; it carries no sign.
-/

/-- A width of binary floating point number. -/
class Binary (α : Type) where
  format : Format
  /-- The exact value. -/
  unpack : α -> UnpackedFloat
  /-- The number of an exact value that is already rounded to the width. -/
  pack : UnpackedFloat -> α
  /-- The number nearest to `mantissa * 10 ^ exponent`. -/
  ofDecimal : (mantissa : Nat) -> (exponent : Int) -> α
  negate : α -> α
  /-- The suffix that names the width behind a literal. -/
  suffix : String

instance : Binary Float32 where
  format := .binary32
  unpack x := x.toModel.unpack
  pack u := .ofModel (.pack u)
  ofDecimal mantissa exponent := .ofModel (.ofScientific mantissa exponent)
  negate x := -x
  suffix := "f32"

instance : Binary Float where
  format := .binary64
  unpack x := x.toModel.unpack
  pack u := .ofModel (.pack u)
  ofDecimal mantissa exponent := .ofModel (.ofScientific mantissa exponent)
  negate x := -x
  suffix := "f64"

namespace Binary

/-- Round an exact value to a format; what is not a finite number stays as it is. -/
def rounded (format : Format) : UnpackedFloat -> UnpackedFloat
  | .finite sign mantissa exponent _ => .round format sign mantissa exponent
  | other => other

/-- The value of one width in the other. -/
def convert {α β : Type} [Binary α] [Binary β] (x : α) : β :=
  pack (rounded (format β) (unpack x))

variable {α : Type} [Binary α]

def infinity (negative : Bool) : α :=
  pack (.infinity (if negative then .negative else .positive))

def undefined : α :=
  pack .notANumber

/-- A signed decimal, rounded once. -/
def ofSignedDecimal (negative : Bool) (mantissa : Nat) (exponent : Int) : α :=
  if negative then negate (ofDecimal mantissa exponent) else ofDecimal mantissa exponent

end Binary

/-- The same value in double precision. -/
def widen (x : Float32) : Float :=
  Binary.convert x

/-- The nearest single precision value; what is too large becomes infinite. -/
def narrow (x : Float) : Float32 :=
  Binary.convert x

end Starfield
