import Starfield.Animation.Clock
import Starfield.Animation.Session
import Starfield.Files.FileSystem
import Starfield.Resize.Script

namespace Starfield

/-!
# Headless runs

An animation without a display: a simulated one refreshes, scripted changes of
the view arrive, and some of the frames are kept as images.
-/

/-- A drag of the view during a run. -/
structure ResizeScript where
  width : UInt32
  height : UInt32
  startMs : Float
  events : UInt32
  spacingMs : Float
deriving BEq, Repr, Inhabited

structure HeadlessOptions where
  frames : UInt32 := 120
  /-- Where images are kept; nothing is kept without it. -/
  outputDirectory : Option Path := none
  /-- Every frame with an index divisible by this is kept. -/
  captureEvery : UInt32 := 30
  resize : Option ResizeScript := none
deriving Inhabited

namespace HeadlessOptions

/-- The frame with this index is kept as an image. -/
def captures (options : HeadlessOptions) (index : Nat) : Bool :=
  index % (max options.captureEvery 1).toNat = 0

/-- The changes of the view that arrive during a run. -/
def resizes (options : HeadlessOptions) (view : Viewport) : ScriptedResizes :=
  match options.resize with
  | some script =>
    .drag view (.ofReadings script.width.toFloat32 script.height.toFloat32 view.pixelRatio)
      script.startMs script.events script.spacingMs
  | none => {}

end HeadlessOptions

/-- The file name of the image of a frame: its index with at least five
digits. -/
def captureName (index : Nat) : Path :=
  let digits := Layout.digits index
  ⟨"frame_" ++ String.ofList (Layout.zeros (5 - digits.length) ++ digits) ++ ".png"⟩

namespace PixelSurface

/-- Write the surface as a PNG file.  Nothing is written if it cannot be
encoded. -/
def writePng {m : Type -> Type} [Monad m] [FileSystem m] (encoder : Png.Encoder)
    (surface : PixelSurface) (path : Path) : Session m Unit := do
  let file <- Session.attempt .encoding (surface.encodePng encoder)
  Session.onFiles .image (FileSystem.writeBytes path file)
  Session.tell .debug .export
    ("Wrote " ++ surface.size.description ++ " frame to " ++ path.text)

end PixelSurface

namespace Headless

variable {m : Type -> Type} [Monad m] [FileSystem m] (encoder : Png.Encoder)

/-- A run between two frames. -/
structure State where
  animator : Animator PixelSurface
  clock : SimulatedClock
  resizes : ScriptedResizes
  captured : Nat := 0

/-- Keep the surface as the image of a frame, if it is to be kept. -/
def capture (options : HeadlessOptions) (index : Nat) (state : State) : Session m State := do
  match options.outputDirectory with
  | some directory =>
    if options.captures index then
      state.animator.surface.writePng encoder (directory.join (captureName index))
      return { state with captured := state.captured + 1 }
    else return state
  | none => return state

/-- Draw up to `count` frames, the first of them with the given index.  The
run is over early when no frame was asked for and when the animator was
stopped. -/
def frames (settings : Settings) (options : HeadlessOptions) (index : Nat) :
    (count : Nat) -> State -> Session m State
  | 0, state => return state
  | count + 1, state => do
    match state.clock.next with
    | (none, _) => return state
    | (some time, clock) =>
      if !state.animator.running then return { state with clock }
      let (applied, animator, resizes) <- Session.step (state.animator.takeUp time state.resizes)
      applied.forM animator.tellApplied
      animator.tellFitting
      let (freshFps, animator) <- Session.step (animator.present time)
      freshFps.forM (animator.tellFps settings.debug.showFps)
      let state := { state with animator, resizes, clock := Scheduler.request clock }
      frames settings options (index + 1) count (<- capture encoder options index state)

/-- Animate for a number of frames and give the final statistics. -/
def run (settings : Settings) (options : HeadlessOptions) : Session m FrameStats := do
  let view := settings.window.viewport
  let surface <- Session.step (PixelSurface.ofSize view.physicalSize)
  options.outputDirectory.forM fun directory =>
    Session.onFiles .image (FileSystem.makeDirectories directory)
  let started <- Session.step
    (Animator.start settings view (some surface)
      (SimulatedClock.ofRate settings.host.targetFps)).run
  let (animator, clock) <- Session.attempt id started
  animator.tellStart
  let state <- frames encoder settings options 0 options.frames.toNat
    { animator, clock, resizes := options.resizes view }
  state.animator.tellStop
  let stats := state.animator.stop.stats
  Session.tell .info .headless
    ("Headless run finished: " ++ toString stats.framesRendered ++ " frames, " ++
      toString stats.regenerations ++ " regenerations, " ++ toString state.captured ++ " captures")
  return stats

end Headless

end Starfield
