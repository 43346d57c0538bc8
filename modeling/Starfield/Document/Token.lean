import Starfield.Document.Literal
import Starfield.Document.Quoted
import Starfield.Text.Identifier

namespace Starfield

/-!
# Tokens of documents

A document is read as tokens with gaps between them.  A name or a number
extends as far as its characters allow, but two points in a row are a token of
their own.
-/

inductive Token
  | mark (c : Char)
  /-- The empty parentheses `()`. -/
  | unit
  /-- The points between the bounds of a range, with an equals sign behind them
  where the upper bound belongs to it. -/
  | points (closed : Bool)
  /-- A name as it is written. -/
  | name (text : String)
  | number (literal : List Char)
  | text (content : String)
  | character (value : Char)
  | byte (value : UInt8)
  | bytes (content : List UInt8)
deriving DecidableEq, Repr

namespace Tokens

/-- The characters that are tokens by themselves. -/
def marks : List Char :=
  ['(', ')', '[', ']', '\x7b', '\x7d', ':', ',', '#', '!', '=']

/-- The character continues a number or a raw name. -/
def isWide (c : Char) : Bool :=
  isIdentifierRest c || c = '.' || c = '+' || c = '-'

/-- The character begins a number. -/
def isNumberStart (c : Char) : Bool :=
  c.isDigit || c = '.' || c = '+' || c = '-'

/-- A number may follow the name at once. -/
def precedesNumber (name : String) : Bool :=
  name = "Some" || Literal.isWord name

/-- The characters of a number, and what follows them. -/
def splitNumber : List Char -> List Char × List Char
  | '.' :: '.' :: rest => ([], '.' :: '.' :: rest)
  | c :: rest =>
    if isWide c then
      let (literal, rest) := splitNumber rest
      (c :: literal, rest)
    else ([], c :: rest)
  | [] => ([], [])

/-- Text in quotation marks, from behind the first. -/
def quotedText? (text : List Char) : Option (Token × List Char) :=
  (Quoted.items? Quoted.character? text).map fun (content, rest) =>
    (.text (String.ofList content), rest)

/-- Bytes in quotation marks, from behind the first. -/
def quotedBytes? (text : List Char) : Option (Token × List Char) :=
  (Quoted.items? Quoted.piece? text).map fun (pieces, rest) => (.bytes (Quoted.bytes pieces), rest)

/-- A character, from behind its opening mark.  It is given by a byte only if
it is encoded in one. -/
def character? (text : List Char) : Option (Token × List Char) :=
  match Quoted.piece? text with
  | some (.plain c, '\'' :: rest) => some (.character c, rest)
  | some (.byte value, '\'' :: rest) =>
    (Quoted.encoded? [value]).map fun c => (.character c, rest)
  | _ => none

/-- A byte, from behind its opening mark.  It is not given by a code point. -/
def byte? : List Char -> Option (Token × List Char)
  | '\\' :: 'u' :: _ => none
  | text =>
    match Quoted.piece? text with
    | some (.byte value, '\'' :: rest) => some (.byte value, rest)
    | some (.plain c, '\'' :: rest) =>
      if c.toNat < 128 then some (.byte (.ofNat c.toNat), rest) else none
    | _ => none

/-- A name or a number. -/
def run? (text : List Char) : Option (Token × List Char) :=
  match text with
  | [] => none
  | c :: _ =>
    if isIdentifierStart c then
      let (name, rest) := text.span isIdentifierRest
      let name := String.ofList name
      if rest.head?.any isWide && !precedesNumber name then none else some (.name name, rest)
    else if isNumberStart c then
      let (literal, rest) := splitNumber text
      some (.number literal, rest)
    else none

/-- The first token of a text that does not begin with a gap. -/
def first? (text : List Char) : Option (Token × List Char) :=
  match text with
  | '(' :: ')' :: rest => some (.unit, rest)
  | '.' :: '.' :: '=' :: rest => some (.points true, rest)
  | '.' :: '.' :: rest => some (.points false, rest)
  | '"' :: rest => quotedText? rest
  | '\'' :: rest => character? rest
  | 'b' :: '\'' :: rest => byte? rest
  | 'b' :: '"' :: rest => quotedBytes? rest
  | 'b' :: 'r' :: '"' :: rest => rawBytes? ('"' :: rest)
  | 'b' :: 'r' :: '#' :: rest => rawBytes? ('#' :: rest)
  | 'r' :: '"' :: rest => rawText? ('"' :: rest)
  | 'r' :: '#' :: '"' :: rest => rawText? ('#' :: '"' :: rest)
  | 'r' :: '#' :: '#' :: rest => rawText? ('#' :: '#' :: rest)
  | 'r' :: '#' :: rest =>
    match rest.span isWide with
    | ([], _) => none
    | (name, rest) => some (.name (String.ofList ('r' :: '#' :: name)), rest)
  | c :: rest => if c ∈ marks then some (.mark c, rest) else run? text
  | [] => none
where
  rawText? (text : List Char) : Option (Token × List Char) :=
    (Quoted.raw? text).map fun (content, rest) => (.text (String.ofList content), rest)
  rawBytes? (text : List Char) : Option (Token × List Char) :=
    (Quoted.raw? text).map fun (content, rest) =>
      (.bytes (String.ofList content).toUTF8.toList, rest)

/-- The tokens of a text with at most `fuel` of them. -/
def listWithin : (fuel : Nat) -> List Char -> Option (List Token)
  | 0, _ => none
  | fuel + 1, text => do
    match <- Gap.skip? .between text with
    | [] => return []
    | text =>
      let (token, rest) <- first? text
      return token :: (<- listWithin fuel rest)

/-- The tokens of a text. -/
def ofChars? (text : List Char) : Option (List Token) :=
  listWithin (text.length + 1) text

end Tokens

end Starfield
