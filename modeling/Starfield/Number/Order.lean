import Starfield.Number.Binary

namespace Starfield

/-!
# The total order of numbers

Numbers of double precision in one line: infinities at the ends, minus zero
before zero.  Undefined numbers stand at one end; which one depends on how
they came about, so the caller chooses.
-/

/-- The end at which undefined numbers stand. -/
inductive UndefinedPlace
  | first
  | last
deriving DecidableEq, Repr

namespace Double

/-- The place of a positive number among the finite ones.  The exponent
decides before the mantissa. -/
def magnitudeKey (mantissa : Nat) (exponent : Int) : Int :=
  (exponent + 1074) * Int.pow 2 53 + mantissa

/-- The place of a number in the order. -/
def orderKey (undefined : UndefinedPlace) (x : Float) : Int :=
  match Binary.unpack x with
  | .notANumber => if undefined = .first then -Int.pow 2 66 else Int.pow 2 66
  | .infinity .positive => Int.pow 2 65
  | .infinity .negative => -Int.pow 2 65
  | .zero .positive => 0
  | .zero .negative => -1
  | .finite .positive mantissa exponent _ => magnitudeKey mantissa exponent
  | .finite .negative mantissa exponent _ => -magnitudeKey mantissa exponent - 1

end Double

end Starfield
