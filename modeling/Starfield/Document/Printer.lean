import Starfield.Document.Quoted
import Starfield.Document.Value

namespace Starfield

/-!
# Printing values

The outer levels of a value have a line for each item, with a comma behind it;
deeper levels stay on one line.
-/

namespace Value

/-- Levels above this one have a line for each item. -/
def widestLevel : Nat := 4

def indentation (level : Nat) : List Char :=
  List.replicate (4 * level) ' '

/-- Items between two marks, at a level. -/
def enclose (level : Nat) (opening closing : Char) (items : List (List Char)) : List Char :=
  if items = [] then [opening, closing]
  else if level < widestLevel then
    opening :: '\n' ::
      ((items.flatMap fun item => indentation (level + 1) ++ item ++ [',', '\n']) ++
        indentation level ++ [closing])
  else opening :: ([',', ' '].intercalate items ++ [closing])

/-- Fields in parentheses, at a level.  Without fields there is a blank, since
`()` is the unit. -/
def encloseFields (level : Nat) (fields : List (List Char)) : List Char :=
  if fields = [] then ['(', ' ', ')'] else enclose level '(' ')' fields

def byteChars (value : UInt8) : List Char :=
  'b' :: '\'' :: (Quoted.escapeByte value ++ ['\''])

def boundChars : Option Bound -> List Char
  | some (.number literal) => literal
  | some (.byte value) => byteChars value
  | none => []

def headText : Head -> List Char
  | .named name => name.toList
  | _ => []

mutual

/-- The text of a value at a level. -/
def chars (level : Nat) : Value -> List Char
  | flag value => (if value then "true" else "false").toList
  | number literal => literal
  | byte value => byteChars value
  | range lower upper closed =>
    boundChars lower ++ (if closed then "..=" else "..").toList ++ boundChars upper
  | character c => '\'' :: (Quoted.escape c ++ ['\''])
  | text content => Quoted.quote content.toList
  | bytes content => 'b' :: '"' :: (content.flatMap Quoted.escapeByte ++ ['"'])
  | word name => name.toList
  | unit => ['(', ')']
  | list items => enclose level '[' ']' (itemChars (level + 1) items)
  | mapping entries => enclose level '\x7b' '\x7d' (entryChars (level + 1) entries)
  | tuple .bare [value] => chars level value
  | tuple head items => headText head ++ enclose level '(' ')' (itemChars (level + 1) items)
  | record head fields => headText head ++ encloseFields level (fieldChars (level + 1) fields)
  | absent => "None".toList
  | present value => "Some(".toList ++ chars level value ++ [')']

def itemChars (level : Nat) : List Value -> List (List Char)
  | [] => []
  | value :: rest => chars level value :: itemChars level rest

def entryChars (level : Nat) : List (Value × Value) -> List (List Char)
  | [] => []
  | (key, value) :: rest =>
    (chars level key ++ ':' :: ' ' :: chars level value) :: entryChars level rest

def fieldChars (level : Nat) : List (String × Value) -> List (List Char)
  | [] => []
  | (name, value) :: rest =>
    (name.toList ++ ':' :: ' ' :: chars level value) :: fieldChars level rest

end

/-- The text of a document that says a value. -/
def print (value : Value) : String :=
  String.ofList (chars 0 value)

end Value

end Starfield
