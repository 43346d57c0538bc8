namespace Starfield

/-!
# File errors

Why a file operation is refused.  The messages are those of the operating
system; paths that no system call can take and files that hold no text are
refused besides.  Only the causes that the program meets in an orderly file
system have names.
-/

inductive FileError
  | notFound
  | alreadyExists
  | notDirectory
  | isDirectory
  /-- A path or one of its pieces is too long. -/
  | nameTooLong
  /-- A path holds the character that ends paths. -/
  | nullCharacter
  /-- The bytes are no text. -/
  | notText
  /-- Another refusal, in the words of the operating system. -/
  | other (description : String)
deriving DecidableEq, Repr, Inhabited

namespace FileError

def message : FileError -> String
  | notFound => "No such file or directory (os error 2)"
  | alreadyExists => "File exists (os error 17)"
  | notDirectory => "Not a directory (os error 20)"
  | isDirectory => "Is a directory (os error 21)"
  | nameTooLong => "File name too long (os error 36)"
  | nullCharacter => "file name contained an unexpected NUL byte"
  | notText => "stream did not contain valid UTF-8"
  | other description => description

end FileError

end Starfield
