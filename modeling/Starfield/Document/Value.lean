namespace Starfield

/-!
# Values of documents

A document says one value.  Records are what settings are made of; the other
kinds are here because a document may say more than the settings listen to.
Numbers are kept as they were written, since only the setting that a number
belongs to knows the width it is rounded to.
-/

/-- What stands in front of the parentheses of a record or tuple. -/
inductive Head
  | unnamed
  | named (name : String)
  /-- The parentheses are those of `Some`. -/
  | bare
deriving DecidableEq, Repr, Inhabited

/-- A bound of a range. -/
inductive Bound
  | number (literal : List Char)
  | byte (value : UInt8)
deriving DecidableEq, Repr, Inhabited

inductive Value
  | flag (value : Bool)
  | number (literal : List Char)
  | byte (value : UInt8)
  /-- A range, to which its upper bound belongs if it is closed. -/
  | range (lower upper : Option Bound) (closed : Bool)
  | character (value : Char)
  | text (content : String)
  | bytes (content : List UInt8)
  /-- A name without parentheses. -/
  | word (name : String)
  /-- The empty parentheses `()`. -/
  | unit
  | list (items : List Value)
  | mapping (entries : List (Value × Value))
  | tuple (head : Head) (items : List Value)
  | record (head : Head) (fields : List (String × Value))
  | absent
  | present (value : Value)
deriving Inhabited

def Bound.value : Bound -> Value
  | number literal => .number literal
  | byte value => .byte value

namespace Value

mutual

/-- How deep a value nests.  A level of brackets counts twice when there is
something in it, and once when there is not.  The parentheses of `Some` do not
count again around a single value or around nothing. -/
def nesting : Value -> Nat
  | list items => 1 + nestingOfItems items
  | mapping entries => 1 + nestingOfEntries entries
  | tuple .bare [value] => nesting value
  | tuple _ items => 1 + nestingOfItems items
  | record .bare [] => 0
  | record _ fields => 1 + nestingOfFields fields
  | present value => 1 + nesting value
  | _ => 0

def nestingOfItems : List Value -> Nat
  | [] => 0
  | value :: rest => max (1 + nesting value) (nestingOfItems rest)

def nestingOfEntries : List (Value × Value) -> Nat
  | [] => 0
  | (key, value) :: rest => max (1 + max (nesting key) (nesting value)) (nestingOfEntries rest)

def nestingOfFields : List (String × Value) -> Nat
  | [] => 0
  | (_, value) :: rest => max (1 + nesting value) (nestingOfFields rest)

end

end Value

end Starfield
