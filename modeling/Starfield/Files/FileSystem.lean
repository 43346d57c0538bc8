import Starfield.Files.Error
import Starfield.Files.Path

namespace Starfield

/-!
# File systems

What the program asks of a file system, and what it builds from that: a
directory with all directories above it, and files that hold text.
-/

/-- A file system that is worked on in `m`. -/
class FileSystem (m : Type -> Type) where
  isPresent : Path -> m Bool
  isDirectory : Path -> m Bool
  readBytes : Path -> m (Except FileError ByteArray)
  /-- Replace the content of a file, or create the file. -/
  writeBytes : Path -> ByteArray -> m (Except FileError Unit)
  makeDirectory : Path -> m (Except FileError Unit)

namespace FileSystem

variable {m : Type -> Type} [Monad m] [FileSystem m]

/-- A directory that could not be created may be there already. -/
def settle (path : Path) : Except FileError Unit -> m (Except FileError Unit)
  | .ok _ => return .ok ()
  | .error error => return if <- isDirectory path then .ok () else .error error

/-- Create the first of some directories, and before it those of the others
that are missing.  Each of the others is the parent of the one before it. -/
def makeChain : List Path -> m (Except FileError Unit)
  | [] => return .ok ()
  | path :: parents => do
    match <- makeDirectory path with
    | .error .notFound =>
      match <- makeChain parents with
      | .ok _ => settle path (<- makeDirectory path)
      | .error error => return .error error
    | result => settle path result

/-- Create a directory and all directories above it. -/
def makeDirectories (path : Path) : m (Except FileError Unit) :=
  if path.text = "" then return .ok () else makeChain path.ancestors

/-- The content of a file that holds text. -/
def readText (path : Path) : m (Except FileError String) := do
  match <- readBytes path with
  | .ok bytes =>
    match String.fromUTF8? bytes with
    | some text => return .ok text
    | none => return .error .notText
  | .error error => return .error error

def writeText (path : Path) (text : String) : m (Except FileError Unit) :=
  writeBytes path text.toUTF8

end FileSystem

end Starfield
