import Starfield.Animation.Headless
import Starfield.Command.Directories
import Starfield.Command.Request
import Starfield.Log.Journal
import Starfield.Settings.Store

namespace Starfield

/-!
# The program

A run of the program reads its arguments, finds its directories, loads the
settings, lays the overrides over them, and animates without a display.  What
happens before the settings are accepted is told to nobody but the caller.
-/

/-- What a run leaves to its caller. -/
structure Outcome where
  exitCode : UInt8
  output : String := ""
  complaint : String := ""
deriving DecidableEq, Repr, Inhabited

namespace Outcome

/-- The outcome of arguments that are no request. -/
def ofEnding : Ending -> Outcome
  | .help => { exitCode := 0, output := Request.usage ++ "\n" }
  | .version => { exitCode := 0, output := "stardrift 0.1.0\n" }
  | .misuse cause =>
    { exitCode := 2, complaint := "error: " ++ cause.message ++ "\n\n" ++ Request.usage ++ "\n" }

def lines (texts : List String) : String :=
  String.join (texts.map (· ++ "\n"))

/-- The outcome of a run that ends early, with what was reported before. -/
def ofHalt (reports : List String) : Halt -> Outcome
  | .error cause =>
    { exitCode := 1, complaint := lines (reports ++ ["stardrift: " ++ cause.message]) }
  | .fault _ => { exitCode := 101 }

end Outcome

namespace Request

/-- The animation that is asked for.  A drag has ten events, a frame apart. -/
def headlessOptions (request : Request) (settings : Settings) : HeadlessOptions where
  frames := request.frames
  outputDirectory := request.outputDirectory
  captureEvery := request.captureEvery
  resize := request.resizeTo.map fun size =>
    let frameMs := SimulatedClock.interval settings.host.targetFps
    { width := size.width
      height := size.height
      startMs := (request.frames / 2).toFloat * frameMs
      events := 10
      spacingMs := frameMs }

def directories (request : Request) (environment : Environment) : Directories :=
  match request.overrides.root with
  | some root => .underRoot root
  | none => .ofEnvironment environment

variable {m : Type -> Type} [Monad m] [FileSystem m] (encoder : Png.Encoder)

/-- The settings of a run: the stored ones with the overrides laid over
them. -/
def settings (request : Request) (directory : Path) : m (Except RunError Settings) := do
  let stored <- Settings.loadOrCreate directory
  return (stored.bind fun settings => (request.overrides.apply settings).accepted).mapError
    .settings

/-- Animate, and tell where settings and logs are. -/
def animate (request : Request) (directories : Directories) (settings : Settings) :
    Session m FrameStats := do
  Session.tell .info .command
    ("Config from " ++ directories.config.text ++ ", logs in " ++ directories.logs.text)
  Headless.run encoder settings (request.headlessOptions settings)

/-- Animate with a journal of what passes a filter.  `reports` is what there is
to report about the filter. -/
def perform (request : Request) (filter : Filter) (reports : List String)
    (directories : Directories) (settings : Settings) : m Outcome := do
  let journal <- Journal.begin filter directories.logs
  let (result, notices) <- ((request.animate encoder directories settings).run).run #[]
  match result with
  | .ok stats =>
    journal.keep notices.toList
    return {
      exitCode := 0
      output := if request.showStats then stats.report ++ "\n" else ""
      complaint := Outcome.lines reports }
  | .error halt =>
    let last := match halt with
      | .error cause => [⟨.error, .command, cause.message⟩]
      | .fault _ => []
    journal.keep (notices.toList ++ last)
    return .ofHalt reports halt

end Request

/-- Run the program. -/
def Program.run {m : Type -> Type} [Monad m] [FileSystem m] (encoder : Png.Encoder)
    (environment : Environment) (arguments : List String) : m Outcome := do
  match Request.ofArguments arguments with
  | .error ending => return .ofEnding ending
  | .ok request =>
    let directories := request.directories environment
    match <- directories.create with
    | .error cause => return .ofHalt [] (.error cause)
    | .ok _ =>
      match <- request.settings directories.config with
      | .error cause => return .ofHalt [] (.error cause)
      | .ok settings =>
        match Journal.filterFor environment settings.debug with
        | .error fault => return .ofHalt [] (.fault fault)
        | .ok (filter, reports) => request.perform encoder filter reports directories settings

end Starfield
