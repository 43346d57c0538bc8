import Starfield.Command.Program
import Starfield.Image.Plain

namespace Starfield

/-!
# The command line

The program on the file system of the machine, with the encoder of plain images.
-/

namespace FileError

/-- The cause of an error that the operating system reports. -/
def ofSystem : IO.Error -> FileError
  | .noFileOrDirectory .. => .notFound
  | .alreadyExists .. => .alreadyExists
  | .inappropriateType _ code _ => if code = 21 then .isDirectory else .notDirectory
  | .invalidArgument _ 36 _ => .nameTooLong
  | error => .other (toString error)

end FileError

namespace Machine

/-- The result of an operation on a path, or the cause of its refusal. -/
def attempt {α : Type} (path : Path) (operation : String -> IO α) : IO (Except FileError α) := do
  match path.refusal? with
  | some error => return .error error
  | none =>
    try return .ok (<- operation path.text)
    catch error => return .error (.ofSystem error)

/-- Read the beginning of a file. -/
def probe (path : Path) : IO (Except FileError ByteArray) :=
  attempt path fun text => do (<- IO.FS.Handle.mk text .read).read 1

/-- The error says that there is nothing at a path. -/
def meansAbsence (error : FileError) : Bool :=
  error ∈ [.notFound, .notDirectory, .nameTooLong, .nullCharacter]

instance : FileSystem IO where
  isPresent path := return match <- probe path with
    | .ok _ => true
    | .error error => !meansAbsence error
  isDirectory path := return (<- probe path) matches .error .isDirectory
  readBytes path := attempt path fun text => IO.FS.readBinFile text
  writeBytes path content := attempt path fun text => IO.FS.writeBinFile text content
  makeDirectory path := attempt path fun text => IO.FS.createDir text

def environment : IO Environment := do
  return {
    home := <- IO.getEnv "HOME"
    configHome := <- IO.getEnv "XDG_CONFIG_HOME"
    stateHome := <- IO.getEnv "XDG_STATE_HOME"
    logFilter := <- IO.getEnv "RUST_LOG" }

end Machine

end Starfield

open Starfield

def main (arguments : List String) : IO UInt32 := do
  let outcome : Outcome <- Program.run Png.Plain.encoder (<- Machine.environment) arguments
  (<- IO.getStdout).putStr outcome.output
  (<- IO.getStderr).putStr outcome.complaint
  return outcome.exitCode.toUInt32
