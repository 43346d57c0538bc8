import Starfield.Number.Binary

namespace Starfield

open Float.Model (Format UnpackedFloat)

/-!
# The shortest decimal of a number

A binary number stands for every decimal that rounds to it.  Among those
decimals this module picks one with the fewest digits and, of these, the one
nearest to the number.  All comparisons are exact comparisons of natural
numbers.  When two decimals are equally near, the caller says which one is
meant.
-/

/-- The decimal `digits * 10 ^ exponent`. -/
structure Decimal where
  digits : Nat
  exponent : Int
deriving DecidableEq, Repr, Inhabited

/-- The choice between two equally near neighbours. -/
inductive Tie
  | upward
  | toEven
deriving DecidableEq, Repr

namespace Shortest

/-- The positive numbers that round to one binary number.  The number and the
two ends are counted in the unit `2 ^ scale`. -/
structure Neighbourhood where
  low : Nat
  middle : Nat
  high : Nat
  scale : Int
  closed : Bool

/-- The neighbourhood of `mantissa * 2 ^ exponent`.  The ends are halfway to
the next numbers; below a power of two the next number is half as far away.
The ends belong to the neighbourhood when the mantissa is even. -/
def neighbourhood (format : Format) (mantissa : Nat) (exponent : Int) : Neighbourhood where
  low :=
    if mantissa = Nat.pow 2 format.mantissaBitsWithoutImplicit ∧
        1 - (format.exponentBias + format.mantissaBitsWithoutImplicit : Int) < exponent then
      4 * mantissa - 1
    else 4 * mantissa - 2
  middle := 4 * mantissa
  high := 4 * mantissa + 2
  scale := exponent - 2
  closed := mantissa % 2 = 0

/-- The factor on the number's side when it is compared with `10 ^ exponent`. -/
def numberFactor (scale exponent : Int) : Nat :=
  Nat.pow 2 scale.toNat * Nat.pow 10 (-exponent).toNat

/-- The factor on the decimal's side when it is compared with `2 ^ scale`. -/
def decimalFactor (scale exponent : Int) : Nat :=
  Nat.pow 2 (-scale).toNat * Nat.pow 10 exponent.toNat

/-- The larger decimal `(digits + 1) * 10 ^ exponent` is the nearer one. -/
def prefersUpper (tie : Tie) (digits twiceRest unit : Nat) : Bool :=
  match tie with
  | .upward => unit ≤ twiceRest
  | .toEven => unit < twiceRest || (unit = twiceRest && digits % 2 = 1)

/-- The decimal with the given exponent that lies in the neighbourhood and is
nearest to its middle. -/
def onGrid? (tie : Tie) (n : Neighbourhood) (exponent : Int) : Option Nat :=
  let factor := numberFactor n.scale exponent
  let unit := decimalFactor n.scale exponent
  let digits := n.middle * factor / unit
  let rest := n.middle * factor % unit
  let inside (value bound : Nat) : Bool := value < bound || (n.closed && value = bound)
  let lower := inside (n.low * factor) (digits * unit)
  let upper := inside ((digits + 1) * unit) (n.high * factor)
  if lower && upper then
    some (if prefersUpper tie digits (2 * rest) unit then digits + 1 else digits)
  else if lower then some digits
  else if upper then some (digits + 1)
  else none

/-- Try finer and finer grids, `steps` more than the first. -/
def search (tie : Tie) (n : Neighbourhood) (exponent : Int) : (steps : Nat) -> Decimal
  | 0 => ⟨(onGrid? tie n exponent).getD 0, exponent⟩
  | steps + 1 =>
    match onGrid? tie n exponent with
    | some digits => ⟨digits, exponent⟩
    | none => search tie n (exponent - 1) steps

/-- An exponent of ten whose power is at least `2 ^ exponent`. -/
def coarsest (exponent : Int) : Int :=
  if 0 ≤ exponent then exponent / 3 + 1 else -(-exponent / 4)

end Shortest

open Shortest in
/-- The shortest decimal of `mantissa * 2 ^ exponent`.  The number itself lies
on the grid of `10 ^ min exponent 0`, where the search ends at the latest. -/
def shortest (tie : Tie) (format : Format) (mantissa : Nat) (exponent : Int) : Decimal :=
  let first := coarsest (mantissa.log2 + 1 + exponent)
  search tie (neighbourhood format mantissa exponent) first (first - min exponent 0).toNat

end Starfield
