import Starfield.Number.Digit
import Starfield.Text.Alphanumeric
import Starfield.Text.Blank

namespace Starfield

/-!
# Patterns

A pattern is a regular expression for the value of a field.  No notice has
such a field, so the only question is whether a pattern can be read.

A part of a pattern is about characters or about bytes.  Nothing is known here
about the kinds and cases of characters: what needs to know them can only be
about bytes.  And what is about bytes must not match a part of a character.
-/

namespace Pattern

/-- How a part of a pattern is read. -/
structure Mode where
  ignoresCase : Bool := false
  isAboutBytes : Bool := false
  /-- Blanks and comments may stand between the signs. -/
  ignoresBlanks : Bool := false
deriving DecidableEq, Repr, Inhabited

namespace Mode

/-- A character can stand for itself. -/
def allowsLiterals (mode : Mode) : Bool :=
  mode.isAboutBytes || !mode.ignoresCase

/-- What follows blanks and comments. -/
def skipGap (isComment : Bool) : List Char -> List Char
  | [] => []
  | c :: rest =>
    if isComment then skipGap (c ≠ '\n') rest
    else if c = '#' then skipGap true rest
    else if isBlank c then skipGap false rest
    else c :: rest

/-- What follows that is not ignored. -/
def skip (mode : Mode) (text : List Char) : List Char :=
  if mode.ignoresBlanks then skipGap false text else text

/-- The signs of the switches between modes. -/
def switches : List Char :=
  ['i', 'm', 's', 'U', 'u', 'R', 'x']

/-- The value of a switch.  Those behind a minus sign are turned off. -/
def switched (signs : List Char) (switch : Char) (before : Bool) : Bool :=
  let (on, off) := signs.span (· ≠ '-')
  if switch ∈ on then true else if switch ∈ off then false else before

/-- Turn switches.  None of them may be named twice. -/
def turn? (mode : Mode) (signs : List Char) : Option Mode :=
  if signs.all (fun c => c = '-' || c ∈ switches) && signs.eraseDups = signs &&
      signs.getLast? ≠ some '-' then
    some {
      ignoresCase := switched signs 'i' mode.ignoresCase
      isAboutBytes := !switched signs 'u' !mode.isAboutBytes
      ignoresBlanks := switched signs 'x' mode.ignoresBlanks }
  else none

end Mode

/-! ## Escapes -/

/-- What an escape stands for. -/
inductive Atom
  | literal (c : Char)
  /-- Any of several characters. -/
  | several
  /-- A condition on the place. -/
  | place
deriving DecidableEq, Repr

/-- A number of so many digits of base sixteen, behind the digits of `value`. -/
def hexNumber? (mode : Mode) : (places value : Nat) -> List Char -> Option (Nat × List Char)
  | 0, value, text => some (value, text)
  | places + 1, value, text =>
    match mode.skip text with
    | c :: rest => do hexNumber? mode places (16 * value + (<- hexDigit? c)) rest
    | [] => none

/-- The character with a code point of so many digits.  Two digits may mean a
byte. -/
def codePoint? (mode : Mode) (places : Nat) (text : List Char) : Option (Atom × List Char) := do
  let (n, rest) <- hexNumber? mode places 0 text
  let isPart := mode.isAboutBytes && places = 2 && 128 ≤ n
  if n.isValidChar && !isPart then some (.literal (Char.ofNat n), rest) else none

/-- An escape, from behind its backslash.  A sign that is neither a letter nor
a digit stands for itself. -/
def escape? (mode : Mode) : List Char -> Option (Atom × List Char)
  | 'x' :: rest => codePoint? mode 2 rest
  | 'u' :: rest => codePoint? mode 4 rest
  | 'U' :: rest => codePoint? mode 8 rest
  | c :: rest =>
    if c ∈ ['a', 'f', 't', 'n', 'r', 'v'] then some (.literal '\n', rest)
    else if c ∈ ['A', 'z'] then some (.place, rest)
    else if c ∈ ['b', 'B', '<', '>'] then if mode.isAboutBytes then some (.place, rest) else none
    else if c ∈ ['d', 's', 'w'] then if mode.isAboutBytes then some (.several, rest) else none
    else if c.toNat < 128 ∧ !c.isAlphanum then some (.literal c, rest)
    else none
  | [] => none

/-! ## Classes -/

/-- The names of classes within classes. -/
def classNames : List String :=
  ["alnum", "alpha", "ascii", "blank", "cntrl", "digit", "graph", "lower", "print", "punct",
    "space", "upper", "word", "xdigit"]

/-- The name of a class between colons, from behind the bracket in front of
it: whether the class is turned around, and what follows. -/
def namedClass? : List Char -> Option (Bool × List Char)
  | ':' :: text =>
    let (isNegated, text) := match text with
      | '^' :: rest => (true, rest)
      | _ => (false, text)
    match text.span (· ≠ ':') with
    | (name, ':' :: ']' :: rest) =>
      if String.ofList name ∈ classNames then some (isNegated, rest) else none
    | _ => none
  | _ => none

/-- What follows an opening bracket and perhaps the sign that turns the class
around. -/
def opened? (mode : Mode) (text : List Char) : Option (List Char) :=
  match mode.skip text with
  | '^' :: rest => if mode.isAboutBytes then none else some rest
  | text => some text

/-- A character or an escape within a class. -/
def classAtom? (mode : Mode) (text : List Char) : Option (Atom × List Char) := do
  let (atom, rest) <- match text with
    | '\\' :: rest => escape? mode rest
    | c :: rest => some (.literal c, rest)
    | [] => none
  match atom with
  | .literal c => if mode.isAboutBytes && 128 ≤ c.toNat then none else return (atom, rest)
  | .several => return (atom, rest)
  | .place => none

/-- What follows an item of a class: a character, several of them, or all from
one to another.  A hyphen before the end of the class or before another hyphen
does not say that there is another end. -/
def afterItem? (mode : Mode) (text : List Char) : Option (List Char) := do
  let (first, rest) <- classAtom? mode text
  match mode.skip rest with
  | '-' :: behind =>
    match mode.skip behind with
    | ']' :: _ | '-' :: _ => return '-' :: behind
    | behind =>
      match first, <- classAtom? mode behind with
      | .literal first, (.literal last, rest) => if first ≤ last then return rest else none
      | _, _ => none
  | rest => return rest

/-- Where a class is being read. -/
inductive ClassPlace
  | opening
  /-- Behind hyphens at the beginning. -/
  | hyphens
  | inside
deriving DecidableEq, Repr

/-- What follows a class within so many others. -/
def afterClass? (mode : Mode) :
    (fuel depth : Nat) -> ClassPlace -> List Char -> Option (List Char)
  | 0, _, _, _ => none
  | fuel + 1, depth, place, text =>
    match place, depth, mode.skip text with
    | .opening, _, '-' :: rest | .hyphens, _, '-' :: rest =>
      afterClass? mode fuel depth .hyphens rest
    | .opening, _, ']' :: rest => afterClass? mode fuel depth .inside rest
    | _, 0, ']' :: rest => some rest
    | _, depth + 1, ']' :: rest => afterClass? mode fuel depth .inside rest
    | _, _, '[' :: rest =>
      match namedClass? rest with
      | some (isNegated, rest) =>
        if isNegated && mode.isAboutBytes then none
        else afterClass? mode fuel depth .inside rest
      | none => do afterClass? mode fuel (depth + 1) .opening (<- opened? mode rest)
    | _, _, '&' :: '&' :: rest | _, _, '-' :: '-' :: rest | _, _, '~' :: '~' :: rest =>
      afterClass? mode fuel depth .inside rest
    | _, _, text => do afterClass? mode fuel depth .inside (<- afterItem? mode text)

/-- What follows a class, from behind its opening bracket. -/
def class? (mode : Mode) (text : List Char) : Option (List Char) :=
  if mode.allowsLiterals then do
    afterClass? mode (text.length + 1) 0 .opening (<- opened? mode text)
  else none

/-! ## Groups -/

/-- What a parenthesis begins. -/
inductive Opening
  | group (mode : Mode) (name : Option (List Char))
  /-- The parentheses change the mode of what follows them. -/
  | turn (mode : Mode)
deriving Repr

/-- The name of a group before an angle. -/
def groupName? (text : List Char) : Option (List Char × List Char) :=
  match text.span (· ≠ '>') with
  | (first :: others, '>' :: rest) =>
    let isLetter := if first.toNat < 128 then first.isAlpha else isAlphanumeric first
    if (first = '_' ∨ isLetter) ∧
        others.all fun c => c ∈ ['_', '.', '[', ']'] || isAlphanumeric c then
      some (first :: others, rest)
    else none
  | _ => none

/-- The beginning of parentheses, from behind the first. -/
def opening? (mode : Mode) (text : List Char) : Option (Opening × List Char) :=
  match mode.skip text with
  | '?' :: 'P' :: '<' :: rest | '?' :: '<' :: rest =>
    (groupName? rest).map fun (name, rest) => (.group mode (some name), rest)
  | '?' :: rest =>
    match rest.span fun c => c ≠ ':' ∧ c ≠ ')' with
    | (signs, ':' :: rest) => (mode.turn? signs).map fun mode => (.group mode none, rest)
    | (first :: others, ')' :: rest) =>
      (mode.turn? (first :: others)).map fun mode => (.turn mode, rest)
    | _ => none
  | text => some (.group mode none, text)

/-! ## Patterns -/

/-- What has been read of a pattern. -/
structure Progress where
  mode : Mode := {}
  /-- The modes behind the groups that are open, the innermost first. -/
  outer : List Mode := []
  /-- The names of groups. -/
  names : List (List Char) := []
  /-- There is something that a sign of repetition can follow. -/
  isRepeatable : Bool := false
deriving Repr

namespace Progress

def begin (progress : Progress) (mode : Mode) (name : Option (List Char)) : Option Progress :=
  if name.all (· ∉ progress.names) then
    some { mode, outer := progress.mode :: progress.outer, names := name.toList ++ progress.names }
  else none

def close (progress : Progress) : Option Progress :=
  match progress.outer with
  | [] => none
  | mode :: outer => some { progress with mode, outer, isRepeatable := true }

/-- Something has been read that can be repeated, if it is allowed. -/
def item (progress : Progress) (isAllowed : Bool) : Option Progress :=
  if isAllowed then some { progress with isRepeatable := true } else none

end Progress

/-- Read the next part of a pattern. -/
def part? (progress : Progress) : List Char -> Option (Progress × List Char)
  | [] => none
  | c :: rest =>
    let mode := progress.mode
    if c = '(' then do
      match <- opening? mode rest with
      | (.group mode name, rest) => return (<- progress.begin mode name, rest)
      | (.turn mode, rest) => return ({ progress with mode, isRepeatable := false }, rest)
    else if c = ')' then do return (<- progress.close, rest)
    else if c = '|' then some ({ progress with isRepeatable := false }, rest)
    else if c = '[' then do
      let rest <- class? mode rest
      return (<- progress.item true, rest)
    else if c = '\\' then do
      match <- escape? mode rest with
      | (.literal _, rest) => return (<- progress.item mode.allowsLiterals, rest)
      | (_, rest) => return (<- progress.item true, rest)
    else if c = '{' then none
    else if c ∈ ['?', '*', '+'] then
      if progress.isRepeatable then
        some (progress, if rest.head? = some '?' then rest.tail else rest)
      else none
    else if c = '.' then do return (<- progress.item !mode.isAboutBytes, rest)
    else if c = '^' ∨ c = '$' then do return (<- progress.item true, rest)
    else do return (<- progress.item mode.allowsLiterals, rest)

/-- The rest of a pattern can be read, if it has at most `fuel` characters. -/
def readsWithin : (fuel : Nat) -> Progress -> List Char -> Bool
  | fuel, progress, text =>
    match fuel, progress.mode.skip text with
    | _, [] => progress.outer = []
    | 0, _ => false
    | fuel + 1, text =>
      match part? progress text with
      | some (progress, rest) => readsWithin fuel progress rest
      | none => false

/-- The pattern can be read.  How often something is repeated cannot be said
by numbers, since these stand in braces. -/
def isValid (text : List Char) : Bool :=
  readsWithin text.length {} text

end Pattern

end Starfield
