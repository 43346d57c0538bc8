import Starfield.Animation.RunError
import Starfield.Animation.Scheduler
import Starfield.Animation.Statistics
import Starfield.Particle.Field
import Starfield.Picture.Painting
import Starfield.Resize.Debouncer

namespace Starfield

/-!
# The animator

An animator owns a field and the surface it is painted on.  The host calls
back once for each frame; a call takes up the changes of the view that are
due, moves the field, paints it and asks for the next frame.  Once stopped, an
animator ignores calls.
-/

structure Animator (σ : Type) where
  field : ParticleField
  surface : σ
  debouncer : ResizeDebouncer
  stats : FrameStats
  probe : FpsProbe
  running : Bool

/-- What one call did. -/
structure FrameReport where
  timestampMs : Float
  drawCalls : Nat
  /-- The field was laid out anew before the frame. -/
  regenerated : Bool
deriving BEq, Repr, Inhabited

/-- The result of a call: the report of a frame that was drawn, and what the
call leaves behind. -/
structure FrameOutcome (σ ρ κ : Type) where
  report : Option FrameReport
  animator : Animator σ
  source : ρ
  scheduler : κ

namespace Animator

variable {σ : Type}

/-- Bring the counters of the layout up to date with the field. -/
def syncLayout (animator : Animator σ) : Animator σ :=
  { animator with
    stats := { animator.stats with
      regenerations := animator.field.generation
      starCount := animator.field.population.stars.length
      viewportWidth := animator.field.viewport.width
      viewportHeight := animator.field.viewport.height } }

/-- Lay out a field for a view and ask for the first frame.  Settings that are
not accepted and a missing surface are refused before anything is asked
for. -/
def launch {κ : Type} [Scheduler κ] (settings : Settings) (view : Viewport) (surface : Option σ) :
    ExceptT RunError (StateT κ (Except Fault)) (Animator σ) := do
  let configured : Except RunError (ParticleField × σ) := do
    settings.validate.mapError .settings
    match surface with
    | none => throw .noSurface
    | some surface =>
      return (<- (ParticleField.configure settings.field).mapError .settings, surface)
  let (empty, surface) <- ExceptT.mk (pure configured)
  let field <- empty.resize view
  let animator : Animator σ := {
    field, surface
    debouncer := .ofQuietTime settings.host.resizeDebounceMs
    stats := {}
    probe := {}
    running := true }
  modify Scheduler.request
  return animator.syncLayout

/-- Launch for a host that ends when it is refused. -/
def start {κ : Type} [Scheduler κ] (settings : Settings) (view : Viewport) (surface : Option σ)
    (scheduler : κ) : ExceptT RunError (Except Fault) (Animator σ × κ) := do
  let (launched, scheduler) <- (launch settings view surface).run.run scheduler
  let animator <- ExceptT.mk (.ok launched)
  return (animator, scheduler)

/-- Take up a change of the view. -/
def onResize (animator : Animator σ) (event : ResizeEvent) : Animator σ :=
  { animator with
    stats := { animator.stats with resizeEvents := animator.stats.resizeEvents + 1 }
    debouncer := animator.debouncer.push event }

/-- Apply the change that is due, if there is one. -/
def settle (animator : Animator σ) (timeMs : Float) :
    Except Fault (Option ResizeEvent × Animator σ) := do
  let (due, debouncer) := animator.debouncer.poll timeMs
  let animator := { animator with debouncer }
  match due with
  | none => return (none, animator)
  | some event =>
    let field <- animator.field.resize event.viewport
    return (some event, { animator with field }.syncLayout)

/-- Move the field to a time and paint it. -/
def draw [Surface σ] (animator : Animator σ) (timeMs : Float) :
    Except Fault (Nat × Animator σ) := do
  let (frame, field) <- animator.field.tick timeMs
  let surface <- frame.paint animator.surface
  return (frame.drawCallCount, { animator with field, surface })

/-- Count a frame that was drawn. -/
def count (animator : Animator σ) (timeMs : Float) (drawCalls : Nat) :
    Option Float × Animator σ :=
  let (fresh, probe) := animator.probe.record timeMs
  (fresh, { animator with
    probe
    stats := { animator.stats with
      framesRendered := animator.stats.framesRendered + 1
      lastDrawCalls := drawCalls
      lastTimestampMs := timeMs
      fps := fresh <|> animator.stats.fps } })

/-- Take up the changes of the view that are due at a time.  Only the one that
has rested long enough is applied. -/
def takeUp {ρ : Type} [ResizeSource ρ] (animator : Animator σ) (timeMs : Float) (source : ρ) :
    Except Fault (Option ResizeEvent × Animator σ × ρ) := do
  let (events, source) := ResizeSource.drain timeMs source
  let (applied, animator) <- (events.foldl onResize animator).settle timeMs
  return (applied, animator, source)

/-- Draw the frame of a time and count it. -/
def present [Surface σ] (animator : Animator σ) (timeMs : Float) :
    Except Fault (Option Float × Animator σ) := do
  let (drawCalls, animator) <- animator.draw timeMs
  return animator.count timeMs drawCalls

/-- Answer the call for a frame. -/
def onFrame {ρ κ : Type} [Surface σ] [ResizeSource ρ] [Scheduler κ] (animator : Animator σ)
    (timeMs : Float) (source : ρ) (scheduler : κ) : Except Fault (FrameOutcome σ ρ κ) := do
  if !animator.running then return ⟨none, animator, source, scheduler⟩
  let (applied, animator, source) <- animator.takeUp timeMs source
  let (_, animator) <- animator.present timeMs
  let report := ⟨timeMs, animator.stats.lastDrawCalls, applied.isSome⟩
  return ⟨some report, animator, source, Scheduler.request scheduler⟩

/-- The size that the surface will be given for the next frame, if that is
another one. -/
def fitting [Surface σ] (animator : Animator σ) : Option PhysicalSize :=
  let size := animator.field.viewport.physicalSize
  if Surface.size animator.surface = size then none else some size

/-- Ask for no more frames. -/
def stop (animator : Animator σ) : Animator σ :=
  { animator with running := false }

end Animator

end Starfield
