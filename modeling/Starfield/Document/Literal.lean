import Starfield.Number.Decimal
import Starfield.Number.Digit

namespace Starfield

/-!
# Number literals

An integer literal is an optional sign and digits of base ten, or of base two,
eight or sixteen behind a mark.  A fraction literal is a decimal numeral or the
word for infinity or for the undefined value.  Underscores may stand between
the digits of either.  A suffix names the kind of number that is meant; it has
to be the kind that is asked for.
-/

/-- A kind of integer that a suffix names. -/
structure IntegerKind where
  signed : Bool
  bits : Nat
deriving DecidableEq, Repr

namespace IntegerKind

def all : List IntegerKind :=
  [true, false].flatMap fun signed => [8, 16, 32, 64].map (⟨signed, ·⟩)

def suffix (kind : IntegerKind) : List Char :=
  (if kind.signed then 'i' else 'u') :: Nat.toDigits 10 kind.bits

/-- The kind has the integer with this sign and magnitude. -/
def contains (kind : IntegerKind) (negative : Bool) (magnitude : Nat) : Bool :=
  if kind.signed then
    let limit := Nat.pow 2 (kind.bits - 1)
    if negative then magnitude ≤ limit else magnitude < limit
  else if negative then magnitude = 0 else magnitude < Nat.pow 2 kind.bits

end IntegerKind

namespace Literal

/-- The base of some digits, and the digits behind its mark. -/
def splitBase : List Char -> Nat × List Char
  | '0' :: 'b' :: digits => (2, digits)
  | '0' :: 'o' :: digits => (8, digits)
  | '0' :: 'x' :: digits => (16, digits)
  | digits => (10, digits)

/-- Append a digit to a number; an underscore changes nothing. -/
def appendDigit? (base value : Nat) (c : Char) : Option Nat :=
  if c = '_' then some value
  else
    match hexDigit? c with
    | some digit => if digit < base then some (base * value + digit) else none
    | none => none

/-- The number that digits of a base denote.  The first of them is no
underscore. -/
def magnitude? (base : Nat) : List Char -> Option Nat
  | [] => none
  | first :: rest => if first = '_' then none else (first :: rest).foldlM (appendDigit? base) 0

/-- The magnitude of an integer without its sign, and the kind that a suffix
names. -/
def integer? (text : List Char) : Option (Nat × Option IntegerKind) :=
  let (base, text) := splitBase text
  let (digits, suffix) := text.span fun c => (hexDigit? c).isSome || c = '_'
  match magnitude? base digits, IntegerKind.all.find? (·.suffix = suffix) with
  | some magnitude, some kind => some (magnitude, some kind)
  | some magnitude, none => if suffix = [] then some (magnitude, none) else none
  | none, _ => none

/-- Read an integer as a natural number of so many bits. -/
def natural? (bits : Nat) (literal : List Char) : Option Nat := do
  let (negative, text) := splitSign literal
  let (magnitude, named) <- integer? text
  let kind : IntegerKind := ⟨false, bits⟩
  if named.all (· = kind) && kind.contains negative magnitude then some magnitude else none

/-- The literal is an integer of the kind that it names.  Without a name it
has 64 bits, and a sign only when it is negative. -/
def isInteger (literal : List Char) : Bool :=
  let (negative, text) := splitSign literal
  (integer? text).any fun (magnitude, named) =>
    (named.getD ⟨negative, 64⟩).contains negative magnitude

/-- A literal without the suffix that names a width, and that suffix. -/
def splitWidth (literal : List Char) : List Char × Option String :=
  let start := literal.length - 3
  match ["f32", "f64"].find? (·.toList = literal.drop start) with
  | some suffix => (literal.take start, some suffix)
  | none => (literal, none)

/-- Every underscore stands behind a digit or an exponent mark, with nothing
but signs and underscores between.  `allowed` says whether one may come
first. -/
def separatesDigits (allowed : Bool) : List Char -> Bool
  | [] => true
  | c :: rest =>
    if c = '_' then allowed && separatesDigits allowed rest
    else separatesDigits ((allowed && c ≠ '.') || c.isDigit || c = 'e' || c = 'E') rest

/-- Read the numeral of a fraction. -/
def numeral? (text : List Char) : Option Numeral :=
  if separatesDigits false text then Numeral.ofChars? (text.filter (· ≠ '_')) else none

/-- Read one of the words for infinity and the undefined value. -/
def wordValue? {α : Type} [Binary α] (text : List Char) : Option α :=
  let (negative, word) := splitSign text
  if word = "inf".toList then some (Binary.infinity negative)
  else if word = "NaN".toList then some Binary.undefined
  else none

/-- Read a fraction. -/
def fraction? {α : Type} [Binary α] (literal : List Char) : Option α :=
  let (text, named) := splitWidth literal
  if named.all (· = Binary.suffix α) then
    wordValue? text <|> (numeral? text).map Numeral.toBinary
  else none

/-- The literal is the undefined value with a minus sign. -/
def isMinusUndefined (literal : List Char) : Bool :=
  (splitWidth literal).1 = "-NaN".toList

/-- The literal is a fraction of the width that it names. -/
def isFraction (literal : List Char) : Bool :=
  let (text, _) := splitWidth literal
  (wordValue? text : Option Float).isSome || (numeral? text).isSome

/-- The literal is a number of some kind. -/
def isNumber (literal : List Char) : Bool :=
  isInteger literal || isFraction literal

/-- The name is one of the words that stand for numbers. -/
def isWord (name : String) : Bool :=
  let (word, _) := splitWidth name.toList
  word = "inf".toList || word = "NaN".toList

end Literal

end Starfield
