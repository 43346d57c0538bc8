import Starfield.Command.Directories
import Starfield.Files.FileSystem
import Starfield.Log.Filter
import Starfield.Settings.Basic

namespace Starfield

/-!
# The journal

The notices of a run that pass a filter are kept in a file, one line for each.
The filter comes from the environment, or else from the settings.  A run goes
on without a journal where the file cannot be created.
-/

namespace Notice

/-- A character within the text of a journal line. -/
def escape (c : Char) : List Char :=
  if c = '"' ∨ c = '\\' then ['\\', c]
  else if c.toNat < 32 then
    ['\\', 'u', '0', '0', Nat.digitChar (c.toNat / 16), Nat.digitChar (c.toNat % 16)]
  else [c]

def quoted (text : String) : String :=
  "\"" ++ String.ofList (text.toList.flatMap escape) ++ "\""

/-- The line of a notice. -/
def line (notice : Notice) : String :=
  "\x7b\"level\":" ++ quoted notice.level.name ++ ",\"fields\":\x7b\"message\":" ++
    quoted notice.message ++ "\x7d,\"target\":" ++ quoted notice.target.path ++ "\x7d\n"

end Notice

/-- The filter that settings name. -/
def DebugSettings.filter (debug : DebugSettings) : String :=
  if debug.logLevel = "" then Filter.default else debug.logLevel

structure Journal where
  filter : Filter
  /-- The file, if it could be created. -/
  file : Option Path

namespace Journal

def fileName : Path := ⟨"stardrift.log"⟩

/-- The filter of a run, and what is reported about reading it. -/
def filterFor (environment : Environment) (debug : DebugSettings) :
    Except Fault (Filter × List String) := do
  match environment.logFilter with
  | none => Filter.ofText debug.filter
  | some text =>
    match <- Filter.ofText? text with
    | some filter => return (filter, [])
    | none => Filter.ofText debug.filter

variable {m : Type -> Type} [Monad m] [FileSystem m]

/-- Begin a journal with an empty file. -/
def begin (filter : Filter) (directory : Path) : m Journal := do
  let file := directory.join fileName
  match <- FileSystem.makeDirectories directory with
  | .error _ => return ⟨filter, none⟩
  | .ok _ =>
    match <- FileSystem.writeText file "" with
    | .error _ => return ⟨filter, none⟩
    | .ok _ => return ⟨filter, some file⟩

/-- Keep the notices that pass. -/
def keep (journal : Journal) (notices : List Notice) : m Unit := do
  match journal.file with
  | none => return
  | some file =>
    let lines := (notices.filter journal.filter.passes).map Notice.line
    let _ <- FileSystem.writeText file (String.join lines)

end Journal

end Starfield
