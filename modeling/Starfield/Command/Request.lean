import Starfield.Command.Arguments
import Starfield.Command.TargetSize
import Starfield.Number.Decimal
import Starfield.Settings.Overrides

namespace Starfield

/-!
# Requests

What the options of the program are and what they ask for.
-/

/-- Everything that a command line asks for. -/
structure Request where
  overrides : Overrides := {}
  frames : UInt32 := 120
  /-- Where images are kept. -/
  outputDirectory : Option Path := none
  captureEvery : UInt32 := 30
  /-- The size that the view is dragged to halfway through the run. -/
  resizeTo : Option TargetSize := none
  showStats : Bool := false
deriving Inhabited

namespace CommandOption

variable {α ρ : Type}

/-- An option whose value has to be readable. -/
def reading (name : String) (read : List Char -> Option α) (set : ρ -> α -> ρ) :
    CommandOption ρ where
  name
  effect := .valued fun text request =>
    match read text.toList with
    | some value => .ok (set request value)
    | none => .error .unreadableValue

/-- An option whose value is a path.  An empty path is none. -/
def path (name : String) (set : ρ -> Path -> ρ) : CommandOption ρ where
  name
  effect := .valued fun text request =>
    if text = "" then .error .missingValue else .ok (set request ⟨text⟩)

def help : CommandOption ρ :=
  ⟨"help", .ask 'h' .help⟩

def version : CommandOption ρ :=
  ⟨"version", .ask 'V' .version⟩

end CommandOption

/-- Read a number of 32 bits.  Zero may have a minus sign. -/
def word? (text : List Char) : Option UInt32 :=
  let (negative, digits) := splitSign text
  let n := digitsValue digits
  if digits ≠ [] ∧ digits.all Char.isDigit ∧ n < UInt32.size ∧ (negative → n = 0) then
    some (.ofNat n)
  else none

/-- Read a number of 64 bits. -/
def seed? (text : List Char) : Option UInt64 :=
  (naturalBelow? UInt64.size text).map .ofNat

namespace Overrides

open CommandOption

def options : List (CommandOption Overrides) := [
  reading "width" word? fun o width => { o with width := some width },
  reading "height" word? fun o height => { o with height := some height },
  reading "pixel-ratio" Binary.ofChars? fun o ratio => { o with pixelRatio := some ratio },
  reading "seed" seed? fun o seed => { o with seed := some seed },
  reading "speed-scale" Binary.ofChars? fun o scale => { o with speedScale := some scale },
  reading "debounce-ms" Binary.ofChars? fun o time => { o with debounceMs := some time },
  reading "log-level" some fun o level => { o with logLevel := some (String.ofList level) },
  path "config" fun o root => { o with root := some root }]

/-- Read arguments that are overrides only. -/
def ofArguments (arguments : List String) : Except Ending Overrides :=
  Progress.ofArguments (help :: options) {} arguments

end Overrides

namespace Request

open CommandOption

def options : List (CommandOption Request) :=
  Overrides.options.map (within (·.overrides) fun r overrides => { r with overrides }) ++ [
    reading "frames" word? fun r frames => { r with frames },
    path "out" fun r directory => { r with outputDirectory := some directory },
    reading "every" word? fun r captureEvery => { r with captureEvery },
    reading "resize-to" TargetSize.ofChars? fun r size => { r with resizeTo := some size },
    ⟨"stats", .switch fun r => { r with showStats := true }⟩]

/-- Read the arguments of the program. -/
def ofArguments (arguments : List String) : Except Ending Request :=
  Progress.ofArguments (help :: version :: options) {} arguments

/-- How the program is called. -/
def usage : String :=
  let form (option : CommandOption Request) :=
    match option.effect with
    | .valued _ => " [--" ++ option.name ++ " <VALUE>]"
    | _ => " [--" ++ option.name ++ "]"
  "Usage: stardrift" ++ String.join ((help :: version :: options).map form)

end Request

end Starfield
