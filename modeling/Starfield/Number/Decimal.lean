import Starfield.Number.Binary

namespace Starfield

/-!
# Reading decimal numerals

A numeral is an optional sign, digits with at most one point, and an optional
exponent.  At least one digit stands beside the point and behind the exponent
mark.  The numeral is kept exactly; it is rounded once, to the width it is
wanted in.
-/

/-- An exact decimal numeral, `digits * 10 ^ exponent` below its sign. -/
structure Numeral where
  negative : Bool
  digits : Nat
  exponent : Int
deriving DecidableEq, Repr

/-- The number that a row of decimal digits denotes. -/
def digitsValue (text : List Char) : Nat :=
  text.foldl (fun value c => 10 * value + (c.toNat - '0'.toNat)) 0

/-- Split off a sign; `true` stands for minus. -/
def splitSign : List Char -> Bool × List Char
  | '-' :: rest => (true, rest)
  | '+' :: rest => (false, rest)
  | text => (false, text)

namespace Numeral

/-- The exponent behind the digits: nothing, or a mark, a sign and digits. -/
def exponent? : List Char -> Option Int
  | [] => some 0
  | mark :: rest =>
    if mark = 'e' ∨ mark = 'E' then
      let (negative, text) := splitSign rest
      if text ≠ [] ∧ text.all Char.isDigit then
        some (if negative then -(digitsValue text : Int) else digitsValue text)
      else none
    else none

/-- The digits behind a point, and what follows them. -/
def splitFraction : List Char -> List Char × List Char
  | '.' :: rest => rest.span Char.isDigit
  | text => ([], text)

/-- Read a numeral. -/
def ofChars? (text : List Char) : Option Numeral :=
  let (negative, unsignedText) := splitSign text
  let (whole, rest) := unsignedText.span Char.isDigit
  let (fraction, tail) := splitFraction rest
  if whole = [] ∧ fraction = [] then none
  else
    match exponent? tail with
    | some exponent =>
      some ⟨negative, digitsValue (whole ++ fraction), exponent - fraction.length⟩
    | none => none

/-- The nearest number of a width. -/
def toBinary {α : Type} [Binary α] (numeral : Numeral) : α :=
  Binary.ofSignedDecimal numeral.negative numeral.digits numeral.exponent

end Numeral

/-- The numbers that are written as words, in lower case. -/
def wordNumber? {α : Type} [Binary α] (negative : Bool) (word : List Char) : Option α :=
  if word = "inf".toList ∨ word = "infinity".toList then some (Binary.infinity negative)
  else if word = "nan".toList then some Binary.undefined
  else none

/-- Read a number: a numeral, or one of the words for infinity and the
undefined value in any case and with an optional sign. -/
def Binary.ofChars? {α : Type} [Binary α] (text : List Char) : Option α :=
  match Numeral.ofChars? text with
  | some numeral => some numeral.toBinary
  | none =>
    let (negative, word) := splitSign text
    wordNumber? negative (word.map Char.toLower)

/-- Read a natural number: an optional plus sign and decimal digits. -/
def natural? (text : List Char) : Option Nat :=
  let digits := match text with
    | '+' :: rest => rest
    | other => other
  if digits ≠ [] ∧ digits.all Char.isDigit then some (digitsValue digits) else none

/-- Read a natural number below a bound. -/
def naturalBelow? (bound : Nat) (text : List Char) : Option Nat :=
  (natural? text).filter (· < bound)

end Starfield
