import Starfield.Number.Shortest

namespace Starfield

open Float.Model (UnpackedFloat)

/-!
# The text of a number

A layout says how the digits of a number are arranged.  There are three of
them: for messages, for literals in settings files, and for the statistics.
All three start from the shortest decimal, so each text reads back as the
number it was written for.  Fixed layouts with a given number of places are
rounded from the exact value instead.
-/

/-- How digits are arranged as text. -/
structure Layout where
  tie : Tie
  /-- A whole number keeps a point and one zero. -/
  marksWhole : Bool
  /-- The exponents of the leading digit that are written without an exponent;
  `none` when all are. -/
  positional : Option (Int × Int)
  /-- An exponent that is not negative has a sign. -/
  signsExponent : Bool

namespace Layout

/-- Numbers in messages are always positional. -/
def message : Layout := ⟨.upward, false, none, false⟩

/-- Literals are recognisable as fractions: `1.0`, `1e-7`. -/
def literal : Layout := ⟨.upward, true, some (-4, 15), false⟩

/-- Double precision statistics. -/
def statistic : Layout := ⟨.toEven, true, some (-5, 15), true⟩

/-- Single precision statistics. -/
def narrowStatistic : Layout := ⟨.toEven, true, some (-5, 12), true⟩

/-- The decimal digits of a natural number. -/
def digits (n : Nat) : List Char :=
  Nat.toDigits 10 n

def zeros (count : Nat) : List Char :=
  List.replicate count '0'

/-- `digits * 10 ^ exponent` without an exponent. -/
def positionalText (marksWhole : Bool) (text : List Char) (exponent : Int) : List Char :=
  if 0 ≤ exponent then
    text ++ zeros exponent.toNat ++ if marksWhole then ['.', '0'] else []
  else
    let places := (-exponent).toNat
    if places < text.length then
      text.take (text.length - places) ++ '.' :: text.drop (text.length - places)
    else
      '0' :: '.' :: (zeros (places - text.length) ++ text)

/-- The digits with a point behind the first, and the exponent of that first
digit. -/
def exponentText (signsExponent : Bool) (text : List Char) (leading : Int) : List Char :=
  let fraction := if text.length ≤ 1 then [] else '.' :: text.drop 1
  let sign := if leading < 0 then ['-'] else if signsExponent then ['+'] else []
  text.take 1 ++ fraction ++ 'e' :: (sign ++ digits leading.natAbs)

/-- The text of a positive decimal. -/
def decimalText (layout : Layout) (decimal : Decimal) : List Char :=
  let text := digits decimal.digits
  let leading := decimal.exponent + text.length - 1
  match layout.positional with
  | none => positionalText layout.marksWhole text decimal.exponent
  | some (lowest, highest) =>
    if lowest ≤ leading ∧ leading ≤ highest then
      positionalText layout.marksWhole text decimal.exponent
    else
      exponentText layout.signsExponent text leading

def signed (sign : UnpackedFloat.Sign) (text : List Char) : List Char :=
  match sign with
  | .negative => '-' :: text
  | .positive => text

/-- The text of a number.  An undefined number is written without a sign. -/
def chars {α : Type} [Binary α] (layout : Layout) (x : α) : List Char :=
  match Binary.unpack x with
  | .notANumber => ['N', 'a', 'N']
  | .infinity sign => signed sign ['i', 'n', 'f']
  | .zero sign => signed sign (if layout.marksWhole then ['0', '.', '0'] else ['0'])
  | .finite sign mantissa exponent _ =>
    signed sign
      (decimalText layout (shortest layout.tie (Binary.format α) mantissa exponent))

def text {α : Type} [Binary α] (layout : Layout) (x : α) : String :=
  String.ofList (layout.chars x)

/-- The digits of `mantissa * 2 ^ exponent` with a fixed number of places.  A
half goes to the even neighbour. -/
def fixedChars (places : Nat) (mantissa : Nat) (exponent : Int) : List Char :=
  let numerator := mantissa * Nat.pow 2 exponent.toNat * Nat.pow 10 places
  let denominator := Nat.pow 2 (-exponent).toNat
  let down := numerator / denominator
  let twiceRest := 2 * (numerator % denominator)
  let rounded :=
    if denominator < twiceRest || (denominator = twiceRest && down % 2 = 1) then down + 1
    else down
  let text := digits rounded
  positionalText false (zeros (places + 1 - text.length) ++ text) (-places)

/-- A number with a fixed number of places. -/
def fixed (places : Nat) (x : Float) : String :=
  match Binary.unpack x with
  | .zero sign =>
    String.ofList (signed sign (fixedChars places 0 0))
  | .finite sign mantissa exponent _ =>
    String.ofList (signed sign (fixedChars places mantissa exponent))
  | _ => message.text x

end Layout

end Starfield
