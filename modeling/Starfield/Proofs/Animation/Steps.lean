import Starfield.Animation.Animator
import Starfield.Proofs.Particle.History
import Starfield.Proofs.Resize.Delivery

namespace Starfield

/-!
# Steps of the animator

What each operation of an animator does to it.  A start is refused for the
settings or for the lack of a surface, and only a start that is not refused
asks for a frame.  A call for a frame does nothing once the animator was
stopped; else it takes up what is due, draws and counts.
-/

namespace Animator

variable {σ κ : Type}

/-! ## Start -/

/-- An animator before its first frame. -/
def initial (settings : Settings) (field : ParticleField) (surface : σ) : Animator σ :=
  syncLayout {
    field, surface
    debouncer := .ofQuietTime settings.host.resizeDebounceMs
    stats := {}
    probe := {}
    running := true }

theorem launch_of_accepted {settings : Settings} (accepted : settings.Accepted) (view : Viewport)
    (surface : σ) : Exists fun field =>
      (ParticleField.blank settings.field).resize view = .ok field ∧
      forall (κ : Type) [Scheduler κ] (scheduler : κ),
        (launch settings view (some surface)).run.run scheduler =
          .ok (.ok (initial settings field surface), Scheduler.request scheduler) := by
  have passed := (Settings.validate_eq_ok settings).mpr accepted
  have configured := ParticleField.configure_eq_ok.mpr ⟨accepted.field, rfl⟩
  have kept : (ParticleField.blank settings.field).settings.Accepted := accepted.field
  rcases ParticleField.resize_spec kept view with ⟨population, generator, -, -, laidOut⟩
  refine ⟨_, laidOut, fun κ _ scheduler => ?_⟩
  unfold launch
  rw [passed, configured]
  -- What is left is the layout, lifted past the refusals and the scheduler.
  change (liftM (ParticleField.resize _ view) >>= _ :
    ExceptT RunError (StateT κ (Except Fault)) (Animator σ)).run.run scheduler = _
  rw [laidOut]
  rfl

/-- Settings that are not accepted are refused, and nothing is asked for. -/
theorem launch_of_not_accepted {settings : Settings} (refused : ¬settings.Accepted)
    (view : Viewport) (surface : Option σ) : Exists fun cause =>
      forall (κ : Type) [Scheduler κ] (scheduler : κ),
        (launch settings view surface).run.run scheduler =
          .ok (.error (.settings cause), scheduler) := by
  rw [← Settings.validate_eq_ok] at refused
  cases checked : settings.validate with
  | ok passed => exact absurd checked refused
  | error cause =>
      refine ⟨cause, fun κ _ scheduler => ?_⟩
      unfold launch
      rw [checked]
      rfl

theorem launch_without_surface {settings : Settings} (accepted : settings.Accepted)
    (view : Viewport) (κ : Type) [Scheduler κ] (scheduler : κ) :
    (launch settings view (none : Option σ)).run.run scheduler =
      .ok (.error .noSurface, scheduler) := by
  unfold launch
  rw [(Settings.validate_eq_ok settings).mpr accepted]
  rfl

/-- A launch that succeeds had accepted settings and a surface. -/
theorem of_launch_eq_ok [Scheduler κ] {settings : Settings} {view : Viewport} {surface : Option σ}
    {scheduler asked : κ} {animator : Animator σ}
    (launched : (launch settings view surface).run.run scheduler = .ok (.ok animator, asked)) :
    settings.Accepted ∧ (Exists fun field => Exists fun drawable => surface = some drawable ∧
      (ParticleField.blank settings.field).resize view = .ok field ∧
        animator = initial settings field drawable) ∧
      asked = Scheduler.request scheduler := by
  by_cases accepted : settings.Accepted
  · cases surface with
    | none => cases (launch_without_surface accepted view κ scheduler).symm.trans launched
    | some drawable =>
        rcases launch_of_accepted accepted view drawable with ⟨field, laidOut, outcome⟩
        cases (outcome κ scheduler).symm.trans launched
        exact ⟨accepted, ⟨field, drawable, rfl, laidOut, rfl⟩, rfl⟩
  · rcases launch_of_not_accepted accepted view surface with ⟨cause, outcome⟩
    cases (outcome κ scheduler).symm.trans launched

/-- A launch that is refused had settings that are not accepted or no surface,
and asked for nothing. -/
theorem of_launch_eq_error [Scheduler κ] {settings : Settings} {view : Viewport}
    {surface : Option σ} {scheduler after : κ} {refusal : RunError}
    (launched : (launch settings view surface).run.run scheduler = .ok (.error refusal, after)) :
    (¬settings.Accepted ∨ surface = none) ∧ after = scheduler := by
  by_cases accepted : settings.Accepted
  · cases surface with
    | none =>
        cases (launch_without_surface accepted view κ scheduler).symm.trans launched
        exact ⟨Or.inr rfl, rfl⟩
    | some drawable =>
        rcases launch_of_accepted accepted view drawable with ⟨field, -, outcome⟩
        cases (outcome κ scheduler).symm.trans launched
  · rcases launch_of_not_accepted accepted view surface with ⟨cause, outcome⟩
    cases (outcome κ scheduler).symm.trans launched
    exact ⟨Or.inl accepted, rfl⟩

/-! ## Calls -/

/-- What a call to settle does: it applies the change that is due, or
nothing. -/
theorem of_settle_eq_ok {animator settled : Animator σ} {timeMs : Float}
    {applied : Option ResizeEvent}
    (settles : animator.settle timeMs = .ok (applied, settled)) :
    (Exists fun event => Exists fun field => animator.debouncer.pending = some event ∧
      animator.debouncer.deadlineMs ≤ timeMs ∧ animator.field.resize event.viewport = .ok field ∧
      applied = some event ∧ settled = syncLayout { animator with
        field, debouncer := { animator.debouncer with pending := none } }) ∨
    ((animator.debouncer.pending = none ∨ ¬animator.debouncer.deadlineMs ≤ timeMs) ∧
      applied = none ∧ settled = animator) := by
  unfold settle at settles
  rcases ResizeDebouncer.poll_cases timeMs animator.debouncer with
    ⟨event, held, due, polled⟩ | ⟨early, polled⟩
  · rw [polled] at settles
    rcases Outcome.bind_eq_ok.mp settles with ⟨field, laidOut, made⟩
    cases made
    exact Or.inl ⟨event, field, held, due, laidOut, rfl, rfl⟩
  · rw [polled] at settles
    cases settles
    exact Or.inr ⟨early, rfl, rfl⟩

theorem of_draw_eq_ok [Surface σ] {animator drawn : Animator σ} {timeMs : Float} {drawCalls : ℕ}
    (draws : animator.draw timeMs = .ok (drawCalls, drawn)) :
    Exists fun frame => Exists fun field => Exists fun surface =>
      animator.field.tick timeMs = .ok (frame, field) ∧
      frame.paint animator.surface = .ok surface ∧
      drawCalls = frame.drawCallCount ∧ drawn = { animator with field, surface } := by
  unfold draw at draws
  rcases Outcome.bind_eq_ok.mp draws with ⟨⟨frame, field⟩, ticked, rest⟩
  rcases Outcome.bind_eq_ok.mp rest with ⟨surface, painted, made⟩
  cases made
  exact ⟨frame, field, surface, ticked, painted, rfl, rfl⟩

/-- Drawing moves the particles and nothing else of the layout, and leaves the
debouncer alone. -/
theorem draw_keeps [Surface σ] {animator drawn : Animator σ} {timeMs : Float} {drawCalls : ℕ}
    (draws : animator.draw timeMs = .ok (drawCalls, drawn)) :
    drawn.debouncer = animator.debouncer ∧ drawn.running = animator.running ∧
      drawn.field.settings = animator.field.settings ∧
      drawn.field.viewport = animator.field.viewport := by
  rcases of_draw_eq_ok draws with ⟨frame, field, surface, ticked, -, -, rfl⟩
  rcases ParticleField.of_tick_eq_ok ticked with ⟨steps, rfl, -⟩
  exact ⟨rfl, rfl, rfl, rfl⟩

/-- After a stop a call for a frame comes to nothing.  The source still has all
that it had, and no frame is asked for. -/
theorem onFrame_of_not_running {ρ : Type} [Surface σ] [ResizeSource ρ] [Scheduler κ]
    {animator : Animator σ} (halted : animator.running = false) (timeMs : Float) (source : ρ)
    (scheduler : κ) :
    animator.onFrame timeMs source scheduler = .ok ⟨none, animator, source, scheduler⟩ := by
  unfold onFrame
  rw [halted]
  rfl

/-- What a call for a frame does: nothing after a stop, else all of it. -/
theorem of_onFrame_eq_ok {ρ : Type} [Surface σ] [ResizeSource ρ] [Scheduler κ]
    {animator : Animator σ} {timeMs : Float} {source : ρ} {scheduler : κ}
    {outcome : FrameOutcome σ ρ κ}
    (answered : animator.onFrame timeMs source scheduler = .ok outcome) :
    (animator.running = false ∧ outcome = ⟨none, animator, source, scheduler⟩) ∨
    (animator.running = true ∧ Exists fun applied => Exists fun settled =>
      Exists fun drawCalls => Exists fun drawn =>
        ((ResizeSource.drain timeMs source).1.foldl onResize animator).settle timeMs =
          .ok (applied, settled) ∧
        settled.draw timeMs = .ok (drawCalls, drawn) ∧
        outcome = ⟨some ⟨timeMs, drawCalls, applied.isSome⟩, (drawn.count timeMs drawCalls).2,
          (ResizeSource.drain timeMs source).2, Scheduler.request scheduler⟩) := by
  unfold onFrame at answered
  cases running : animator.running with
  | false =>
      rw [running] at answered
      cases answered
      exact Or.inl ⟨rfl, rfl⟩
  | true =>
      rw [running] at answered
      rcases Outcome.bind_eq_ok.mp answered with ⟨⟨applied, settled, source⟩, tookUp, rest⟩
      rcases Outcome.bind_eq_ok.mp rest with ⟨⟨fresh, counted⟩, presented, made⟩
      unfold takeUp at tookUp
      rcases Outcome.bind_eq_ok.mp tookUp with ⟨⟨applied, settled⟩, settles, kept⟩
      cases kept
      unfold present at presented
      rcases Outcome.bind_eq_ok.mp presented with ⟨⟨drawCalls, drawn⟩, draws, counts⟩
      cases counts
      cases made
      exact Or.inr ⟨rfl, applied, settled, drawCalls, drawn, settles, draws, rfl⟩

/-- Changes that are taken up only reach the debouncer and the statistics. -/
theorem onResizes_eq (animator : Animator σ) (events : List ResizeEvent) : Exists fun stats =>
    events.foldl onResize animator =
      { animator with stats, debouncer := animator.debouncer.pushAll events } := by
  induction events generalizing animator with
  | nil => exact ⟨animator.stats, rfl⟩
  | cons event events ih => exact ih (animator.onResize event)

/-- Changes that are taken up, and the one that is applied, leave the surface
alone and do not stop the animator. -/
theorem takenUp_keeps {animator settled : Animator σ} {events : List ResizeEvent} {timeMs : Float}
    {applied : Option ResizeEvent}
    (settles : (events.foldl onResize animator).settle timeMs = .ok (applied, settled)) :
    settled.surface = animator.surface ∧ settled.running = animator.running := by
  rcases onResizes_eq animator events with ⟨stats, taken⟩
  rw [taken] at settles
  rcases of_settle_eq_ok settles with ⟨event, field, -, -, -, -, rfl⟩ | ⟨-, -, rfl⟩ <;>
    exact ⟨rfl, rfl⟩

/-- The surface after a call for a frame: as it was if the animator was stopped,
else a painting of the field at that time, and its drawings are counted. -/
theorem surface_onFrame {ρ : Type} [Surface σ] [ResizeSource ρ] [Scheduler κ]
    {animator : Animator σ} {timeMs : Float} {source : ρ} {scheduler : κ}
    {outcome : FrameOutcome σ ρ κ}
    (answered : animator.onFrame timeMs source scheduler = .ok outcome) :
    (outcome.report = none ∧ outcome.animator = animator) ∨
      (outcome.report.isSome = true ∧ Exists fun frame =>
        outcome.animator.field.describe timeMs = .ok frame ∧
        frame.paint animator.surface = .ok outcome.animator.surface ∧
        outcome.animator.stats.lastDrawCalls = frame.drawCallCount) := by
  rcases of_onFrame_eq_ok answered with ⟨-, rfl⟩ |
    ⟨-, applied, settled, drawCalls, drawn, settles, draws, rfl⟩
  · exact Or.inl ⟨rfl, rfl⟩
  · rcases of_draw_eq_ok draws with ⟨frame, field, surface, ticked, painted, rfl, rfl⟩
    rcases ParticleField.of_tick_eq_ok ticked with ⟨steps, -, described⟩
    rw [(takenUp_keeps settles).1] at painted
    exact Or.inr ⟨rfl, frame, described, painted, rfl⟩

/-- A call for a frame leaves the settings of the field alone. -/
theorem onFrame_settings {ρ : Type} [Surface σ] [ResizeSource ρ] [Scheduler κ]
    {animator : Animator σ} {timeMs : Float} {source : ρ} {scheduler : κ}
    {outcome : FrameOutcome σ ρ κ}
    (answered : animator.onFrame timeMs source scheduler = .ok outcome) :
    outcome.animator.field.settings = animator.field.settings := by
  rcases of_onFrame_eq_ok answered with ⟨-, rfl⟩ |
    ⟨-, applied, settled, drawCalls, drawn, settles, draws, rfl⟩
  · rfl
  · rcases onResizes_eq animator (ResizeSource.drain timeMs source).1 with ⟨stats, taken⟩
    rw [taken] at settles
    have drawnSettings := (draw_keeps draws).2.2.1
    rcases of_settle_eq_ok settles with ⟨event, field, -, -, laidOut, -, rfl⟩ | ⟨-, -, rfl⟩
    · exact drawnSettings.trans (ParticleField.of_resize_eq_ok laidOut).1
    · exact drawnSettings

/-- A frame of an animator that runs takes up what its source delivers.  It
applies the change that is then held back, and reports that, or leaves it where
it is. -/
theorem of_onFrame_of_running {ρ : Type} [Surface σ] [ResizeSource ρ] [Scheduler κ]
    {animator : Animator σ} (running : animator.running = true) {timeMs : Float} {source : ρ}
    {scheduler : κ} {outcome : FrameOutcome σ ρ κ}
    (answered : animator.onFrame timeMs source scheduler = .ok outcome) :
    let held := animator.debouncer.pushAll (ResizeSource.drain timeMs source).1
    outcome.animator.running = true ∧ outcome.source = (ResizeSource.drain timeMs source).2 ∧
    Exists fun drawCalls =>
      (Exists fun event => held.pending = some event ∧ held.deadlineMs ≤ timeMs ∧
        outcome.report = some ⟨timeMs, drawCalls, true⟩ ∧
        outcome.animator.debouncer = { held with pending := none } ∧
        outcome.animator.field.viewport = event.viewport) ∨
      ((held.pending = none ∨ ¬held.deadlineMs ≤ timeMs) ∧
        outcome.report = some ⟨timeMs, drawCalls, false⟩ ∧ outcome.animator.debouncer = held) := by
  rcases of_onFrame_eq_ok answered with ⟨stopped, -⟩ |
    ⟨-, applied, settled, drawCalls, drawn, settles, draws, rfl⟩
  · cases stopped.symm.trans running
  · rcases draw_keeps draws with ⟨sameDebouncer, sameRunning, -, sameView⟩
    refine ⟨sameRunning.trans ((takenUp_keeps settles).2.trans running), rfl, drawCalls, ?_⟩
    rcases onResizes_eq animator (ResizeSource.drain timeMs source).1 with ⟨stats, taken⟩
    rw [taken] at settles
    rcases of_settle_eq_ok settles with ⟨event, field, pending, rested, laidOut, rfl, rfl⟩ |
      ⟨unrested, rfl, rfl⟩
    · have shown := sameView.trans (ParticleField.of_resize_eq_ok laidOut).2.1
      exact Or.inl ⟨event, pending, rested, rfl, sameDebouncer, shown⟩
    · exact Or.inr ⟨unrested, rfl, sameDebouncer⟩

/-- With accepted settings the layout of a change that is due has a result. -/
theorem settle_ok {animator : Animator σ} (accepted : animator.field.settings.Accepted)
    (timeMs : Float) : Exists fun applied => Exists fun settled =>
      animator.settle timeMs = .ok (applied, settled) ∧
        settled.field.settings = animator.field.settings ∧
        settled.surface = animator.surface := by
  unfold settle
  rcases ResizeDebouncer.poll_cases timeMs animator.debouncer with
    ⟨event, -, -, polled⟩ | ⟨-, polled⟩
  · rcases ParticleField.resize_spec accepted event.viewport with
      ⟨population, generator, -, -, laidOut⟩
    rw [polled]
    change Exists fun applied => Exists fun settled =>
      (animator.field.resize event.viewport >>= _) = .ok (applied, settled) ∧ _
    rw [laidOut]
    exact ⟨_, _, rfl, rfl, rfl⟩
  · rw [polled]
    exact ⟨_, _, rfl, rfl, rfl⟩

/-- A call for a frame that settles draws and counts. -/
theorem onFrame_eq {ρ : Type} [Surface σ] [ResizeSource ρ] [Scheduler κ] {animator : Animator σ}
    {timeMs : Float} {source : ρ} {applied : Option ResizeEvent} {settled : Animator σ}
    (running : animator.running = true)
    (settles : ((ResizeSource.drain timeMs source).1.foldl onResize animator).settle timeMs =
      .ok (applied, settled)) (scheduler : κ) :
    animator.onFrame timeMs source scheduler = settled.draw timeMs >>= fun drawn =>
      .ok ⟨some ⟨timeMs, drawn.1, applied.isSome⟩, (drawn.2.count timeMs drawn.1).2,
        (ResizeSource.drain timeMs source).2, Scheduler.request scheduler⟩ := by
  unfold onFrame takeUp present
  rw [running]
  simp only [Bool.not_true, Bool.false_eq_true, if_false, settles, Outcome.ok_bind, pure_bind,
    bind_assoc]
  rfl

theorem draw_eq [Surface σ] {animator : Animator σ} {timeMs : Float} {frame : Frame}
    {field : ParticleField} (ticked : animator.field.tick timeMs = .ok (frame, field)) :
    animator.draw timeMs = frame.paint animator.surface >>= fun surface =>
      .ok (frame.drawCallCount, { animator with field, surface }) := by
  unfold draw
  rw [ticked]
  rfl

/-- With accepted settings only the surface can keep a call for a frame from
being answered, by a fault when the frame is painted. -/
theorem onFrame_total {ρ : Type} [Surface σ] [ResizeSource ρ] [Scheduler κ]
    {animator : Animator σ} (accepted : animator.field.settings.Accepted) (timeMs : Float)
    (source : ρ) (scheduler : κ) :
    (Exists fun frame => Exists fun cause =>
      Frame.paint frame animator.surface = .error cause ∧
        animator.onFrame timeMs source scheduler = .error cause) ∨
    Exists fun outcome => animator.onFrame timeMs source scheduler = .ok outcome := by
  cases running : animator.running with
  | false => exact Or.inr ⟨_, onFrame_of_not_running running timeMs source scheduler⟩
  | true =>
      rcases onResizes_eq animator (ResizeSource.drain timeMs source).1 with ⟨stats, taken⟩
      have kept : ((ResizeSource.drain timeMs source).1.foldl onResize
          animator).field.settings.Accepted := by
        rw [taken]
        exact accepted
      rcases settle_ok kept timeMs with ⟨applied, settled, settles, sameSettings, sameSurface⟩
      rcases ParticleField.tick_spec (sameSettings ▸ kept) timeMs with
        ⟨steps, frame, -, -, ticked⟩
      rw [taken] at sameSurface
      rw [onFrame_eq running settles, draw_eq ticked, sameSurface]
      cases painted : frame.paint animator.surface with
      | error cause => exact Or.inl ⟨frame, cause, painted, rfl⟩
      | ok surface => exact Or.inr ⟨_, rfl⟩

end Animator

end Starfield
