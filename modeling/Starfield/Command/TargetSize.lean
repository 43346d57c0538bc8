import Starfield.Number.Decimal
import Starfield.Number.Layout
import Starfield.Text.Blank

namespace Starfield

/-!
# Sizes as arguments

A size is written as its width and its height with an `x` between them.
-/

structure TargetSize where
  width : UInt32
  height : UInt32
deriving DecidableEq, Repr, Inhabited

namespace TargetSize

/-- A side: a number of 32 bits, with blanks around it that do not count. -/
def side? (text : List Char) : Option UInt32 :=
  (naturalBelow? UInt32.size (trimBlanks text)).map .ofNat

def isSeparator (c : Char) : Bool :=
  c = 'x' || c = 'X'

/-- Read a size.  The first separator counts. -/
def ofChars? (text : List Char) : Option TargetSize :=
  match text.span fun c => !isSeparator c with
  | (_, []) => none
  | (before, _ :: behind) => do
    let width <- side? before
    let height <- side? behind
    return ⟨width, height⟩

def chars (size : TargetSize) : List Char :=
  Layout.digits size.width.toNat ++ 'x' :: Layout.digits size.height.toNat

end TargetSize

end Starfield
