import Starfield.Animation.Headless
import Starfield.Proofs.Animation.Shown

namespace Starfield

/-!
# Refreshes of a simulated display

A display that only refreshes when a frame was asked for could stop.  It never
does: the start asks for a frame, and every frame asks for the next.

What is drawn refresh by refresh is the animation of some settings.  It is
stated here without files and notices, so that nothing in it depends on which
frames are kept, or where.
-/

namespace Headless

/-- An animation on a display between two refreshes. -/
abbrev Moment := FrameOutcome PixelSurface ScriptedResizes SimulatedClock

/-- One refresh of the display: a frame, if one was asked for. -/
def refresh (moment : Moment) : Except Fault Moment :=
  match moment.scheduler.next with
  | (none, clock) => .ok { moment with report := none, scheduler := clock }
  | (some time, clock) => moment.animator.onFrame time moment.source clock

/-- The animation after some refreshes. -/
def refreshed (first : Moment) : (count : ℕ) -> Except Fault Moment
  | 0 => .ok first
  | count + 1 => refreshed first count >>= refresh

/-- The animation before the first refresh. -/
def opening (settings : Settings) (options : HeadlessOptions) :
    ExceptT RunError (Except Fault) Moment := do
  let view := settings.window.viewport
  let surface <- PixelSurface.ofSize view.physicalSize
  let (animator, clock) <- Animator.start settings view (some surface)
    (SimulatedClock.ofRate settings.host.targetFps)
  return ⟨none, animator, options.resizes view, clock⟩

/-! ## Every refresh draws -/

/-- The animator is at work after some frames and has asked for the next. -/
structure Moment.IsLive (moment : Moment) (rendered : ℕ) : Prop where
  running : moment.animator.running = true
  requested : moment.scheduler.requested = true
  balanced : Exists fun taken => Exists fun regenerated =>
    moment.animator.Balanced taken regenerated rendered

variable {moment next first : Moment} {rendered : ℕ}

theorem Moment.IsLive.exists_time (live : moment.IsLive rendered) :
    Exists fun time => Exists fun clock => moment.scheduler.next = (some time, clock) ∧
      refresh moment = moment.animator.onFrame time moment.source clock := by
  have next_eq : moment.scheduler.next = (some moment.scheduler.nowMs, _) := if_pos live.requested
  refine ⟨_, _, next_eq, ?_⟩
  unfold refresh
  rw [next_eq]

theorem Moment.IsLive.refresh (live : moment.IsLive rendered)
    (refreshes : refresh moment = .ok next) : next.IsLive (rendered + 1) := by
  rcases live.exists_time with ⟨time, clock, -, answers⟩
  rcases live.balanced with ⟨taken, regenerated, balanced⟩
  rw [answers] at refreshes
  have books := (balanced.onFrame refreshes).1
  rcases Animator.of_onFrame_eq_ok refreshes with ⟨stopped, -⟩ |
    ⟨-, applied, settled, drawCalls, drawn, settles, draws, rfl⟩
  · cases live.running.symm.trans stopped
  have running := (Animator.draw_keeps draws).2.1.trans (Animator.takenUp_keeps settles).2
  exact ⟨running.trans live.running, rfl, _, _, books⟩

theorem Moment.IsLive.refreshed (live : first.IsLive rendered) {count : ℕ}
    (reached : refreshed first count = .ok moment) : moment.IsLive (rendered + count) := by
  induction count generalizing moment with
  | zero =>
      cases reached
      exact live
  | succ count ih =>
      rcases Outcome.bind_eq_ok.mp reached with ⟨before, earlier, refreshes⟩
      exact (ih earlier).refresh refreshes

/-- The surface stays sound. -/
theorem isSound_refresh (sound : moment.animator.surface.IsSound)
    (refreshes : refresh moment = .ok next) : next.animator.surface.IsSound := by
  unfold refresh at refreshes
  split at refreshes
  · cases refreshes
    exact sound
  · exact Animator.isSound_onFrame sound refreshes

theorem isSound_refreshed (sound : first.animator.surface.IsSound) {count : ℕ}
    (reached : refreshed first count = .ok moment) : moment.animator.surface.IsSound := by
  induction count generalizing moment with
  | zero =>
      cases reached
      exact sound
  | succ count ih =>
      rcases Outcome.bind_eq_ok.mp reached with ⟨before, earlier, refreshes⟩
      exact isSound_refresh (ih earlier) refreshes

/-- A fault stays. -/
theorem refreshed_error {cause : Fault} {count : ℕ} (faulted : refreshed first count = .error cause)
    (more : ℕ) : refreshed first (count + more) = .error cause := by
  induction more with
  | zero => exact faulted
  | succ more ih =>
      rw [← Nat.add_assoc, Headless.refreshed, ih]
      rfl

end Headless

namespace Animator

variable {σ : Type}

/-- The two halves of a frame, taking up and presenting, together are the frame. -/
theorem onFrame_halves {ρ κ : Type} [Surface σ] [ResizeSource ρ] [Scheduler κ]
    {animator : Animator σ} (running : animator.running = true) (timeMs : Float)
    (source : ρ) (scheduler : κ) :
    (Exists fun cause => animator.onFrame timeMs source scheduler = .error cause ∧
      (animator.takeUp timeMs source = .error cause ∨
        Exists fun taken => animator.takeUp timeMs source = .ok taken ∧
          taken.2.1.present timeMs = .error cause)) ∨
    Exists fun applied => Exists fun settled => Exists fun rest =>
      Exists fun fresh => Exists fun counted =>
        animator.takeUp timeMs source = .ok (applied, settled, rest) ∧
        settled.present timeMs = .ok (fresh, counted) ∧
        animator.onFrame timeMs source scheduler =
          .ok ⟨some ⟨timeMs, counted.stats.lastDrawCalls, applied.isSome⟩, counted, rest,
            Scheduler.request scheduler⟩ := by
  unfold onFrame
  rw [running]
  cases takes : animator.takeUp timeMs source with
  | error cause => exact Or.inl ⟨cause, rfl, Or.inl rfl⟩
  | ok taken =>
      rcases taken with ⟨applied, settled, rest⟩
      cases presents : settled.present timeMs with
      | error cause =>
          refine Or.inl ⟨cause, ?_, Or.inr ⟨_, rfl, presents⟩⟩
          change (settled.present timeMs >>= _) = _
          rw [presents]
          rfl
      | ok presented =>
          refine Or.inr ⟨applied, settled, rest, presented.1, presented.2, rfl, presents, ?_⟩
          change (settled.present timeMs >>= _) = _
          rw [presents]
          rfl

end Animator

end Starfield
