import Starfield.Animation.Animator
import Starfield.Log.Notice

namespace Starfield

/-!
# Sessions

A session is work on a file system that tells about itself and may end early.
What was told before the end stays told.  This module also words what an
animation tells: the numbers come from the states before and after a step, so
that the steps themselves need not tell anything.
-/

/-- How a session ends early. -/
inductive Halt
  | error (cause : RunError)
  | fault (cause : Fault)
deriving Repr, Inhabited

/-- Work in `m` that tells notices. -/
abbrev Session (m : Type -> Type) := ExceptT Halt (StateT (Array Notice) m)

namespace Session

variable {m : Type -> Type} [Monad m] {α : Type}

def tell (level : Level) (target : Target) (message : String) : Session m Unit :=
  modify (·.push ⟨level, target, message⟩)

/-- End with an error. -/
def refuse (cause : RunError) : Session m α :=
  throw (.error cause)

/-- A step that may fault. -/
def step : Except Fault α -> Session m α
  | .ok value => pure value
  | .error cause => throw (.fault cause)

/-- A step that may be refused. -/
def attempt {ε : Type} (wrap : ε -> RunError) : Except ε α -> Session m α
  | .ok value => pure value
  | .error cause => refuse (wrap cause)

/-- A file operation that may be refused. -/
def onFiles (wrap : FileError -> RunError) (operation : m (Except FileError α)) : Session m α := do
  attempt wrap (<- operation)

end Session

/-! ## The wording of notices -/

namespace Viewport

/-- The sides in logical pixels and the ratio. -/
def description (viewport : Viewport) : String :=
  Layout.message.text viewport.width ++ "x" ++ Layout.message.text viewport.height ++
    " (ratio " ++ Layout.fixed 2 viewport.pixelRatio

end Viewport

namespace PhysicalSize

def description (size : PhysicalSize) : String :=
  toString size.width ++ "x" ++ toString size.height

end PhysicalSize

namespace ParticleField

/-- What is told of a layout. -/
def layoutMessage (field : ParticleField) : String :=
  "Regenerated field #" ++ toString field.generation ++ " for " ++ field.viewport.description ++
    ", " ++ field.viewport.physicalSize.description ++ " physical): " ++
    toString field.population.stars.length ++ " stars, " ++
    toString field.population.nebulae.length ++ " nebulae"

end ParticleField

namespace Animator

variable {m : Type -> Type} [Monad m] {σ : Type}

def tellLayout (animator : Animator σ) : Session m Unit :=
  Session.tell .debug .field animator.field.layoutMessage

def tellStart (animator : Animator σ) : Session m Unit := do
  animator.tellLayout
  Session.tell .info .animator
    ("Animator started at " ++ animator.field.viewport.description ++ ") with " ++
      toString animator.stats.starCount ++ " stars")

def tellApplied (animator : Animator σ) (event : ResizeEvent) : Session m Unit := do
  animator.tellLayout
  Session.tell .debug .animator
    ("Applied debounced resize to " ++ Layout.message.text event.width ++ "x" ++
      Layout.message.text event.height ++ " (" ++ toString animator.debouncer.coalesced ++
      " events coalesced so far)")

def tellFitting [Surface σ] (animator : Animator σ) : Session m Unit :=
  animator.fitting.forM fun size =>
    Session.tell .trace .surface ("Pixel surface resized to " ++ size.description)

def tellFps (animator : Animator σ) (showFps : Bool) (fps : Float) : Session m Unit :=
  let rate := "FPS: " ++ Layout.fixed 1 fps
  if showFps then
    Session.tell .info .animator
      (rate ++ " (" ++ toString animator.stats.lastDrawCalls ++ " draw calls)")
  else Session.tell .debug .animator rate

def tellStop (animator : Animator σ) : Session m Unit :=
  Session.tell .info .animator
    ("Animator stopped after " ++ toString animator.stats.framesRendered ++ " frames")

end Animator

end Starfield
