import Starfield.Document.Token
import Starfield.Document.Value

namespace Starfield

/-!
# Reading documents

A document may begin with attributes, some of which turn on extensions of what
values may look like.  Then it says one value, and nothing follows.
-/

/-- What the attributes of a document turn on. -/
structure Extensions where
  /-- Any value but an absent one is a present one. -/
  impliesPresent : Bool := false
  /-- The fields of a present record stand in the parentheses of `Some`. -/
  unwrapsPresent : Bool := false
  /-- Records have to be named. -/
  requiresNames : Bool := false
deriving DecidableEq, Repr, Inhabited

structure Document where
  extensions : Extensions
  value : Value
deriving Inhabited

/-- A name without the mark of a raw name. -/
def bareName (name : String) : String :=
  match name.toList with
  | 'r' :: '#' :: rest => String.ofList rest
  | _ => name

namespace Value

variable {α : Type}

/-- Elements with commas between them, and perhaps one behind the last, up to
a closing mark. -/
def separated? (element : List Token -> Option (α × List Token)) (closing : Char) :
    (fuel : Nat) -> List Token -> Option (List α × List Token)
  | 0, _ => none
  | fuel + 1, tokens =>
    if tokens.head? = some (.mark closing) then some ([], tokens.tail)
    else do
      let (first, rest) <- element tokens
      match rest with
      | .mark ',' :: rest => do
        let (others, rest) <- separated? element closing fuel rest
        return (first :: others, rest)
      | .mark c :: rest => if c = closing then some ([first], rest) else none
      | _ => none

/-- The name of a field, a colon and its value. -/
def field? (element : List Token -> Option (Value × List Token)) :
    List Token -> Option ((String × Value) × List Token)
  | .name name :: .mark ':' :: rest => do
    let (value, rest) <- element rest
    return ((bareName name, value), rest)
  | _ => none

/-- A key, a colon and its value. -/
def keyed? (element : List Token -> Option (Value × List Token)) (tokens : List Token) :
    Option ((Value × Value) × List Token) := do
  match <- element tokens with
  | (key, .mark ':' :: rest) =>
    let (value, rest) <- element rest
    return ((key, value), rest)
  | _ => none

/-- What stands in parentheses: fields, or the items of a tuple. -/
def parenthesized? (element : List Token -> Option (Value × List Token)) (fuel : Nat) (head : Head)
    (tokens : List Token) : Option (Value × List Token) :=
  match tokens with
  | .name _ :: .mark ':' :: _ | .mark ')' :: _ => do
    let (fields, rest) <- separated? (field? element) ')' fuel tokens
    return (.record head fields, rest)
  | _ => do
    let (items, rest) <- separated? element ')' fuel tokens
    return (.tuple head items, rest)

/-- What follows a name: the parentheses of a record or tuple, or nothing. -/
def headed? (element : List Token -> Option (Value × List Token)) (fuel : Nat) (name : String) :
    List Token -> Option (Value × List Token)
  | .unit :: rest => some (.record (.named name) [], rest)
  | .mark '(' :: rest => parenthesized? element fuel (.named name) rest
  | rest => some (.word name, rest)

/-- The bound of a range. -/
def bound? : List Token -> Option (Bound × List Token)
  | .number literal :: rest =>
    if Literal.isNumber literal then some (.number literal, rest) else none
  | .name name :: rest =>
    if Literal.isWord name then some (.number name.toList, rest) else none
  | .byte value :: rest => some (.byte value, rest)
  | _ => none

/-- A range from behind its points.  A closed range has an upper bound. -/
def upTo? (lower : Option Bound) (closed : Bool) (tokens : List Token) :
    Option (Value × List Token) :=
  match bound? tokens with
  | some (upper, rest) => some (.range lower (some upper) closed, rest)
  | none => if closed then none else some (.range lower none closed, tokens)

/-- A number or a byte, or the range that begins with it. -/
def bounded? (tokens : List Token) : Option (Value × List Token) := do
  match <- bound? tokens with
  | (lower, .points closed :: rest) => upTo? (some lower) closed rest
  | (lower, rest) => return (lower.value, rest)

/-- What follows the name `Some`. -/
def present? (extensions : Extensions) (element : List Token -> Option (Value × List Token))
    (fuel : Nat) : List Token -> Option (Value × List Token)
  | .unit :: rest =>
    if extensions.unwrapsPresent then some (.present (.record .bare []), rest) else none
  | .mark '(' :: rest => do
    if extensions.unwrapsPresent then
      let (value, rest) <- parenthesized? element fuel .bare rest
      return (.present value, rest)
    else
      match <- separated? element ')' fuel rest with
      | ([value], rest) => return (.present value, rest)
      | _ => none
  | tokens => do
    if extensions.impliesPresent then
      let (value, rest) <- element tokens
      return (.present value, rest)
    else none

/-- The value that some tokens begin with, and the tokens behind it. -/
def ofTokens? (extensions : Extensions) : (fuel : Nat) -> List Token -> Option (Value × List Token)
  | 0, _ => none
  | fuel + 1, tokens =>
    let element := ofTokens? extensions fuel
    match tokens with
    | .name name :: rest =>
      if name = "true" then some (.flag true, rest)
      else if name = "false" then some (.flag false, rest)
      else if name = "None" then some (.absent, rest)
      else if name = "Some" then present? extensions element (fuel + 1) rest
      else if Literal.isWord name then bounded? tokens
      else headed? element (fuel + 1) name rest
    | .number _ :: _ | .byte _ :: _ => bounded? tokens
    | .points closed :: rest => upTo? none closed rest
    | .text content :: rest => some (.text content, rest)
    | .character c :: rest => some (.character c, rest)
    | .bytes content :: rest => some (.bytes content, rest)
    | .unit :: rest => some (.unit, rest)
    | .mark '(' :: rest => parenthesized? element (fuel + 1) .unnamed rest
    | .mark '[' :: rest => do
      let (items, rest) <- separated? element ']' (fuel + 1) rest
      return (.list items, rest)
    | .mark '\x7b' :: rest => do
      let (entries, rest) <- separated? (keyed? element) '\x7d' (fuel + 1) rest
      return (.mapping entries, rest)
    | _ => none

end Value

namespace Extensions

/-- Turn on the extension with a name. -/
def enable? (extensions : Extensions) (name : String) : Option Extensions :=
  if name = "implicit_some" then some { extensions with impliesPresent := true }
  else if name = "unwrap_variant_newtypes" then some { extensions with unwrapsPresent := true }
  else if name = "explicit_struct_names" then some { extensions with requiresNames := true }
  else if name = "unwrap_newtypes" then some extensions
  else none

def name? : List Token -> Option (String × List Token)
  | .name name :: rest => some (bareName name, rest)
  | _ => none

/-- The attribute with this name tells something about a document that does
not matter for reading it. -/
def isRemark (name : String) : Bool :=
  name = "type" || name = "schema"

/-- The attributes that some tokens begin with, and the tokens behind them. -/
def ofTokens? (extensions : Extensions) :
    (fuel : Nat) -> List Token -> Option (Extensions × List Token)
  | 0, _ => none
  | fuel + 1, .mark '#' :: .mark '!' :: .mark '[' :: .name "enable" :: .mark '(' :: rest => do
    match <- Value.separated? name? ')' (fuel + 1) rest with
    | (names, .mark ']' :: rest) =>
      if names = [] then none else ofTokens? (<- names.foldlM enable? extensions) fuel rest
    | _ => none
  | fuel + 1, .mark '#' :: .mark '!' :: .mark '[' :: .name name :: .mark '=' :: .text _ ::
      .mark ']' :: rest =>
    if isRemark name then ofTokens? extensions fuel rest else none
  | _, .mark '#' :: _ => none
  | _, tokens => some (extensions, tokens)

end Extensions

namespace Document

/-- Read a document. -/
def ofChars? (text : List Char) : Option Document := do
  let tokens <- Tokens.ofChars? text
  let (extensions, tokens) <- Extensions.ofTokens? {} (tokens.length + 1) tokens
  match <- Value.ofTokens? extensions (tokens.length + 1) tokens with
  | (value, []) => return ⟨extensions, value⟩
  | _ => none

end Document

end Starfield
