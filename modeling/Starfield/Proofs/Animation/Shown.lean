import Starfield.Proofs.Animation.Accounting
import Starfield.Proofs.Picture.Repainting

namespace Starfield

/-!
# What an animator shows

The owner of an animator can draw on its surface between the frames, resize it
or put another one in its place.  None of that is seen in the next frame: after
every frame the surface shows the field as it is now, in the size of its view,
and it shows what any other surface would show.
-/

/-- What can happen to an animator with a surface of pixels: a call of the host,
or a change of the surface by its owner. -/
inductive PixelMove : Type 1
  | call (call : HostCall)
  | edit (surface : PixelSurface) (sound : surface.IsSound)

theorem ParticleField.viewport_of_describe {field : ParticleField} {timeMs : Float} {frame : Frame}
    (described : field.describe timeMs = .ok frame) : frame.viewport = field.viewport := by
  rcases Outcome.bind_eq_ok.mp described with ⟨stars, -, made⟩
  cases made
  rfl

namespace Animator

variable {κ : Type} [Scheduler κ]

/-- An animator and its scheduler after a move.  The answer of a call is not kept. -/
def move (state : Animator PixelSurface × κ) :
    PixelMove -> Except Fault (Animator PixelSurface × κ)
  | .call call => do return (<- state.1.perform state.2 call).2
  | .edit surface _ => .ok ({ state.1 with surface }, state.2)

def moveAll (state : Animator PixelSurface × κ) (moves : List PixelMove) :
    Except Fault (Animator PixelSurface × κ) :=
  moves.foldlM move state

/-! ## The surface stays sound -/

theorem isSound_onFrame {ρ : Type} [ResizeSource ρ] {animator : Animator PixelSurface}
    {timeMs : Float} {source : ρ} {scheduler : κ} {outcome : FrameOutcome PixelSurface ρ κ}
    (sound : animator.surface.IsSound)
    (answered : animator.onFrame timeMs source scheduler = .ok outcome) :
    outcome.animator.surface.IsSound := by
  rcases surface_onFrame answered with ⟨-, same⟩ | ⟨-, frame, -, painted, -⟩
  · exact same ▸ sound
  · exact (Frame.of_paint_eq_ok sound painted).1

theorem isSound_move {state next : Animator PixelSurface × κ} {made : PixelMove}
    (sound : state.1.surface.IsSound) (moved : move state made = .ok next) :
    next.1.surface.IsSound := by
  cases made with
  | edit surface edited =>
      cases moved
      exact edited
  | call call =>
      rcases Outcome.bind_eq_ok.mp moved with ⟨answer, performed, kept⟩
      cases kept
      cases call with
      | resize event =>
          cases performed
          exact sound
      | stop =>
          cases performed
          exact sound
      | frame timeMs source =>
          rcases Outcome.bind_eq_ok.mp performed with ⟨outcome, answered, made⟩
          cases made
          exact isSound_onFrame sound answered

theorem isSound_moveAll {moves : List PixelMove} {state last : Animator PixelSurface × κ}
    (sound : state.1.surface.IsSound) (moved : moveAll state moves = .ok last) :
    last.1.surface.IsSound := by
  induction moves generalizing state with
  | nil =>
      cases moved
      exact sound
  | cons made moves ih =>
      rw [moveAll, List.foldlM_cons, Outcome.bind_eq_ok] at moved
      rcases moved with ⟨next, first, rest⟩
      exact ih (isSound_move sound first) rest

/-! ## What a frame shows -/

/-- After every frame of a run the surface has the size of the view in physical
pixels and is what painting the field on any sound surface gives. -/
theorem onFrame_shows_field {settings : Settings} {view : Viewport} {surface : PixelSurface}
    (sound : surface.IsSound) {scheduler first asked : κ}
    {animator reached : Animator PixelSurface}
    (launched : (launch settings view (some surface)).run.run scheduler = .ok (.ok animator, first))
    {moves : List PixelMove} (moved : moveAll (animator, first) moves = .ok (reached, asked))
    {ρ : Type} [ResizeSource ρ] {timeMs : Float} {source : ρ}
    {outcome : FrameOutcome PixelSurface ρ κ}
    (answered : reached.onFrame timeMs source asked = .ok outcome)
    (drew : outcome.report.isSome = true) :
    outcome.animator.surface.size = outcome.animator.field.viewport.physicalSize ∧
      outcome.animator.surface.IsSound ∧
      Exists fun frame => outcome.animator.field.describe timeMs = .ok frame ∧
        forall other : PixelSurface, other.IsSound ->
          frame.paint other = .ok outcome.animator.surface := by
  have launchedSound : animator.surface.IsSound := by
    rcases of_launch_eq_ok launched with ⟨-, ⟨field, drawable, same, -, rfl⟩, -⟩
    cases same
    exact sound
  have reachedSound : reached.surface.IsSound := isSound_moveAll launchedSound moved
  rcases surface_onFrame answered with ⟨nothing, -⟩ | ⟨-, frame, described, painted, -⟩
  · rw [nothing] at drew
    cases drew
  · rcases Frame.of_paint_eq_ok reachedSound painted with ⟨paintedSound, size_eq⟩
    rw [ParticleField.viewport_of_describe described] at size_eq
    refine ⟨size_eq, paintedSound, frame, described, fun other otherSound => ?_⟩
    rw [Frame.paint_sound frame otherSound, ← Frame.paint_sound frame reachedSound]
    exact painted

/-- A change of the view that is not due yet, and another surface put in place
before the first frame. -/
theorem onFrame_shows_field_default : Exists fun animator => Exists fun first =>
    Exists fun reached => Exists fun asked =>
    Exists fun outcome : FrameOutcome PixelSurface Unit FrameRequests =>
      (launch {} .smallest (some ⟨⟨2, 1⟩, Array.replicate 2 .transparent⟩)).run.run
        ({} : FrameRequests) = .ok (.ok animator, first) ∧
      moveAll (animator, first) [.call (.resize ⟨640, 480, 1, 0⟩),
        .edit ⟨⟨3, 2⟩, Array.replicate 6 PixelSurface.solidWhite⟩
          ⟨by decide, by decide, by decide, rfl⟩] = .ok (reached, asked) ∧
      reached.onFrame 0 () asked = .ok outcome ∧ outcome.report.isSome = true ∧
      outcome.animator.surface.size = outcome.animator.field.viewport.physicalSize ∧
      Exists fun frame => outcome.animator.field.describe 0 = .ok frame ∧
        forall other : PixelSurface, other.IsSound ->
          frame.paint other = .ok outcome.animator.surface := by
  have accepted : Settings.Accepted {} := (Settings.validate_eq_ok {}).mp rfl
  have sound : (⟨⟨2, 1⟩, Array.replicate 2 .transparent⟩ : PixelSurface).IsSound :=
    ⟨by decide, by decide, by decide, rfl⟩
  rcases launch_of_accepted accepted .smallest
    (⟨⟨2, 1⟩, Array.replicate 2 .transparent⟩ : PixelSurface) with ⟨field, laidOut, launches⟩
  have launched := launches FrameRequests {}
  have edited : (⟨⟨3, 2⟩, Array.replicate 6 PixelSurface.solidWhite⟩ : PixelSurface).IsSound :=
    ⟨by decide, by decide, by decide, rfl⟩
  set reached : Animator PixelSurface :=
    { (initial {} field (⟨⟨2, 1⟩, Array.replicate 2 .transparent⟩ : PixelSurface)).onResize
        ⟨640, 480, 1, 0⟩ with surface := ⟨⟨3, 2⟩, Array.replicate 6 PixelSurface.solidWhite⟩ }
    with reached_eq
  have settles : (((ResizeSource.drain 0 ()).1).foldl onResize reached).settle 0 =
      .ok (none, reached) := by
    have drained : ResizeSource.drain 0 () = ([], ()) := by
      rw [ResizeSource.drain]
      rfl
    have early : ¬(0 + Double.larger 120 0 : Float) ≤ 0 := by decide
    have rests : reached.debouncer.poll 0 = (none, reached.debouncer) := if_neg early
    rw [drained]
    unfold settle
    rw [List.foldl_nil, rests]
    rfl
  have kept : reached.field.settings.Accepted :=
    (ParticleField.of_resize_eq_ok laidOut).1 ▸ accepted.field
  rcases ParticleField.tick_spec kept 0 with ⟨steps, frame, -, described, ticked⟩
  have view : frame.viewport = .smallest :=
    (ParticleField.viewport_of_describe described).trans (ParticleField.of_resize_eq_ok laidOut).2.1
  have painted : Exists fun painted => frame.paint reached.surface = .ok painted := by
    have single : Viewport.smallest.physicalSize = ⟨1, 1⟩ := by decide +kernel
    apply Frame.paint_ok_of_clipsDown edited
    · rw [view, single]
      decide
    · rw [view, single]
      exact PhysicalSize.clipsDown_of_le (by decide) (by decide)
  rcases painted with ⟨surface, painted⟩
  have answered : reached.onFrame 0 () (Scheduler.request ({} : FrameRequests)) = _ :=
    onFrame_eq rfl settles _
  rw [draw_eq ticked, painted] at answered
  have moved : moveAll (initial {} field (⟨⟨2, 1⟩, Array.replicate 2 .transparent⟩ : PixelSurface),
      Scheduler.request ({} : FrameRequests)) [.call (.resize ⟨640, 480, 1, 0⟩),
        .edit ⟨⟨3, 2⟩, Array.replicate 6 PixelSurface.solidWhite⟩ edited] =
      .ok (reached, Scheduler.request ({} : FrameRequests)) := rfl
  have shown := onFrame_shows_field sound launched moved answered rfl
  exact ⟨_, _, _, _, _, launched, moved, answered, rfl, shown.1, shown.2.2⟩

end Animator

end Starfield
