import Starfield.Document.Gap
import Starfield.Number.Digit
import Starfield.Text.Printable

namespace Starfield

/-!
# Quoted text

Text stands between quotation marks, and a backslash says a character that
could not stand there.  An escape may also say a single byte; several such
escapes in a row make up a character that is encoded in several bytes.  Raw
text has no escapes: it ends at a quotation mark with as many hash marks behind
it as stood in front.
-/

/-- What a character or an escape in a quotation stands for. -/
inductive Piece
  | plain (c : Char)
  | byte (value : UInt8)
deriving DecidableEq, Repr

namespace Quoted

/-! ## Writing -/

/-- A character as it is written between quotation marks: what has no shape of
its own is given by its code point. -/
def escape (c : Char) : List Char :=
  if c = Char.ofNat 0 then ['\\', '0']
  else if c = '\t' then ['\\', 't']
  else if c = '\r' then ['\\', 'r']
  else if c = '\n' then ['\\', 'n']
  else if c = '\\' ∨ c = '"' ∨ c = '\'' then ['\\', c]
  else if extendsGrapheme c ∨ !isPrintable c then
    '\\' :: 'u' :: '\x7b' :: (Nat.toDigits 16 c.toNat ++ ['\x7d'])
  else [c]

/-- Text between quotation marks. -/
def quote (content : List Char) : List Char :=
  '"' :: (content.flatMap escape ++ ['"'])

/-- A byte as an escape of two digits. -/
def escapeByte (value : UInt8) : List Char :=
  ['\\', 'x', Nat.digitChar (value.toNat / 16), Nat.digitChar (value.toNat % 16)]

/-! ## Reading -/

/-- Some digits of base sixteen as a number. -/
def hexValue? (digits : List Char) : Option Nat :=
  digits.foldlM (fun value c => (hexDigit? c).map (16 * value + ·)) 0

/-- The character with a code point of one to six digits. -/
def codePoint? (digits : List Char) : Option Char :=
  match hexValue? digits with
  | some n =>
    if 0 < digits.length ∧ digits.length ≤ 6 ∧ n.isValidChar then some (Char.ofNat n) else none
  | none => none

/-- What an escape stands for, from behind its backslash. -/
def escaped? : List Char -> Option (Piece × List Char)
  | 'x' :: high :: low :: rest =>
    (hexValue? [high, low]).map fun n => (.byte (.ofNat n), rest)
  | 'u' :: '\x7b' :: text =>
    match text.span fun c => (hexDigit? c).isSome with
    | (digits, '\x7d' :: rest) => (codePoint? digits).map fun c => (.plain c, rest)
    | _ => none
  | '0' :: rest => some (.plain (Char.ofNat 0), rest)
  | 't' :: rest => some (.plain '\t', rest)
  | 'r' :: rest => some (.plain '\r', rest)
  | 'n' :: rest => some (.plain '\n', rest)
  | c :: rest => if c = '\\' ∨ c = '"' ∨ c = '\'' then some (.plain c, rest) else none
  | [] => none

/-- What the next character or escape stands for. -/
def piece? : List Char -> Option (Piece × List Char)
  | '\\' :: rest => escaped? rest
  | c :: rest => some (.plain c, rest)
  | [] => none

/-- The character that some bytes encode. -/
def encoded? (bytes : List UInt8) : Option Char :=
  match (String.fromUTF8? ⟨bytes.toArray⟩).map String.toList with
  | some [c] => some c
  | _ => none

/-- A byte that belongs to the character before it.  There may be gaps between
the signs of its escape. -/
def furtherByte? : List Char -> Option (UInt8 × List Char)
  | '\\' :: text =>
    match Gap.skip? .between text with
    | some ('x' :: text) =>
      match Gap.skip? .between text with
      | some (high :: low :: rest) => (hexValue? [high, low]).map fun n => (.ofNat n, rest)
      | _ => none
    | _ => none
  | _ => none

/-- The character that begins with some bytes and has up to so many more. -/
def completed? (places : Nat) (begun : List UInt8) (text : List Char) :
    Option (Char × List Char) :=
  match encoded? begun, places with
  | some c, _ => some (c, text)
  | none, 0 => none
  | none, places + 1 => do
    let (value, rest) <- furtherByte? text
    completed? places (begun ++ [value]) rest

/-- The next character of text. -/
def character? (text : List Char) : Option (Char × List Char) :=
  match piece? text with
  | some (.plain c, rest) => some (c, rest)
  | some (.byte value, rest) => completed? 3 [value] rest
  | none => none

/-- The character is skipped at the start of a line that continues a
quotation. -/
def isMargin (c : Char) : Bool :=
  c = ' ' || c = '\t' || c = '\n' || c = '\r'

/-- What follows where a line ends in a backslash to be continued. -/
def continued? : List Char -> Option (List Char)
  | '\\' :: '\n' :: rest => some (rest.dropWhile isMargin)
  | '\\' :: '\r' :: '\n' :: rest => some (rest.dropWhile isMargin)
  | _ => none

section Items

variable {α : Type} (item : List Char -> Option (α × List Char))

/-- What stands up to a closing quotation mark, and what follows that.  The
text is no longer than `fuel`. -/
def itemsWithin : (fuel : Nat) -> List Char -> Option (List α × List Char)
  | 0, _ => none
  | _, '"' :: rest => some ([], rest)
  | fuel + 1, text =>
    match continued? text with
    | some rest => itemsWithin fuel rest
    | none => do
      let (first, rest) <- item text
      let (others, rest) <- itemsWithin fuel rest
      return (first :: others, rest)

/-- What stands in a quotation, from behind its opening mark. -/
def items? (text : List Char) : Option (List α × List Char) :=
  itemsWithin item text.length text

end Items

/-- The bytes of some pieces. -/
def bytes (pieces : List Piece) : List UInt8 :=
  pieces.flatMap fun
    | .plain c => (String.singleton c).toUTF8.toList
    | .byte value => [value]

/-- The content of raw text up to its end, and what follows. -/
def rawContent? (hashes : Nat) : List Char -> Option (List Char × List Char)
  | [] => none
  | c :: rest =>
    if c = '"' ∧ rest.take hashes = List.replicate hashes '#' then some ([], rest.drop hashes)
    else (rawContent? hashes rest).map fun (content, tail) => (c :: content, tail)

/-- The content of raw text, from its first hash mark on. -/
def raw? (text : List Char) : Option (List Char × List Char) :=
  match text.span (· = '#') with
  | (hashes, '"' :: rest) => rawContent? hashes.length rest
  | _ => none

end Quoted

end Starfield
