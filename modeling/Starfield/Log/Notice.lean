namespace Starfield

/-!
# Notices

What the program tells about its work.  A notice has a level and the part of
the program that it comes from; filters look at both.
-/

inductive Level
  | error
  | warn
  | info
  | debug
  | trace
deriving DecidableEq, Repr, Inhabited

namespace Level

/-- More detailed levels are higher. -/
def detail : Level -> Nat
  | error => 1
  | warn => 2
  | info => 3
  | debug => 4
  | trace => 5

/-- The name in log files. -/
def name : Level -> String
  | error => "ERROR"
  | warn => "WARN"
  | info => "INFO"
  | debug => "DEBUG"
  | trace => "TRACE"

end Level

/-- A part of the program that tells about its work. -/
inductive Target
  | command
  | animator
  | headless
  | field
  | surface
  | export
deriving DecidableEq, Repr, Inhabited

namespace Target

/-- The name that filters look at. -/
def path : Target -> String
  | command => "stardrift"
  | animator => "stardrift_app::animator"
  | headless => "stardrift_app::headless"
  | field => "stardrift_field::field"
  | surface => "stardrift_render::pixel"
  | «export» => "stardrift_render::export"

/-- The names of the fields of notices.  Some parts also tell from which place
in the program a notice comes. -/
def fields : Target -> List String
  | command | animator | headless => ["message"]
  | field | surface | «export» =>
    ["message", "log.target", "log.module_path", "log.file", "log.line"]

end Target

structure Notice where
  level : Level
  target : Target
  message : String
deriving BEq, Repr, Inhabited

end Starfield
