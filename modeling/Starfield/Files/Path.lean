import Starfield.Files.Error

namespace Starfield

/-!
# Paths

A path is text.  Its pieces are what stands between slashes; empty pieces do
not count.  Pieces are not cancelled against each other, since what a piece
`..` means is decided by the directories it is followed through.
-/

structure Path where
  text : String
deriving DecidableEq, Repr, Inhabited

namespace Path

/-- The pieces of some text between slashes. -/
def split (slash : Char) : List Char -> List (List Char)
  | [] => [[]]
  | c :: rest =>
    if c = slash then [] :: split slash rest
    else
      match split slash rest with
      | piece :: pieces => (c :: piece) :: pieces
      | [] => [[c]]

def pieces (path : Path) : List String :=
  ((split '/' path.text.toList).filter (· ≠ [])).map String.ofList

def isAbsolute (path : Path) : Bool :=
  path.text.toList.head? = some '/'

def endsInSlash (path : Path) : Bool :=
  path.text.toList.getLast? = some '/'

/-- Pieces have at most so many bytes. -/
def pieceLimit : Nat := 255

/-- Paths have fewer bytes than this. -/
def sizeLimit : Nat := 4096

/-- Why a path is refused whatever there is in the file system. -/
def refusal? (path : Path) : Option FileError :=
  if Char.ofNat 0 ∈ path.text.toList then some .nullCharacter
  else if sizeLimit ≤ path.text.utf8ByteSize then some .nameTooLong
  else none

/-- A path below another.  An absolute path stays as it is. -/
def join (base rest : Path) : Path :=
  if rest.isAbsolute || base.text = "" then rest
  else if base.endsInSlash then ⟨base.text ++ rest.text⟩
  else ⟨base.text ++ "/" ++ rest.text⟩

/-- The path itself and the directories that its text names above it, the
longest first.  Neither the root nor the current directory is among them. -/
def ancestors (path : Path) : List Path :=
  let names := path.pieces.filter (· ≠ ".")
  let start := if path.isAbsolute then "/" else ""
  path :: ((List.range names.length).tail.map fun dropped =>
    ⟨start ++ "/".intercalate (names.take (names.length - dropped))⟩)

end Path

end Starfield
