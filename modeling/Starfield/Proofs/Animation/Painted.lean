import Starfield.Proofs.Animation.Accounting
import Starfield.Proofs.Picture.DrawCalls

namespace Starfield

open DrawCommand (primitives)

/-!
# What an animator paints

An animator counts drawings without looking at its surface: it asks the frame.
To compare the count with what the surface is really asked for, every call is
made on a surface with a log.  The log changes nothing of what the animator
does, so what is seen there happens on every kind of surface.
-/

namespace Animator

variable {σ κ : Type}

/-! ## Animators on logged surfaces -/

/-- The animator on its own surface with an empty log. -/
def logged (animator : Animator σ) : Animator (LoggedSurface σ) :=
  { animator with surface := { surface := animator.surface } }

/-- The animator without the log. -/
def bare (animator : Animator (LoggedSurface σ)) : Animator σ :=
  { animator with surface := animator.surface.surface }

theorem bare_logged (animator : Animator σ) : animator.logged.bare = animator :=
  rfl

theorem onResizes_bare (animator : Animator (LoggedSurface σ)) (events : List ResizeEvent) :
    events.foldl onResize animator.bare = (events.foldl onResize animator).bare := by
  induction events generalizing animator with
  | nil => rfl
  | cons event events ih => exact ih (animator.onResize event)

theorem settle_bare (animator : Animator (LoggedSurface σ)) (timeMs : Float) :
    animator.bare.settle timeMs = Prod.map id bare <$> animator.settle timeMs := by
  have held : animator.bare.debouncer = animator.debouncer := rfl
  unfold settle
  rw [held]
  rcases animator.debouncer.poll timeMs with ⟨due | event, debouncer⟩
  · rfl
  · change (animator.field.resize event.viewport >>= _) =
      Prod.map id bare <$> (animator.field.resize event.viewport >>= _)
    cases animator.field.resize event.viewport <;> rfl

theorem takeUp_bare {ρ : Type} [ResizeSource ρ] (animator : Animator (LoggedSurface σ))
    (timeMs : Float) (source : ρ) :
    animator.bare.takeUp timeMs source = Prod.map id (Prod.map bare id) <$>
      animator.takeUp timeMs source := by
  unfold takeUp
  dsimp only
  rw [onResizes_bare, settle_bare]
  cases ((ResizeSource.drain timeMs source).1.foldl onResize animator).settle timeMs <;> rfl

section Calls

variable [Surface σ]

theorem draw_bare (animator : Animator (LoggedSurface σ)) (timeMs : Float) :
    animator.bare.draw timeMs = Prod.map id bare <$> animator.draw timeMs := by
  unfold draw
  change (animator.field.tick timeMs >>= _) = Prod.map id bare <$> (animator.field.tick timeMs >>= _)
  cases animator.field.tick timeMs with
  | error cause => rfl
  | ok ticked =>
      change (ticked.1.paint animator.surface.surface >>= _) =
        Prod.map id bare <$> (ticked.1.paint animator.surface >>= _)
      rw [LoggedSurface.paint_eq]
      cases ticked.1.paint animator.surface.surface <;> rfl

theorem present_bare (animator : Animator (LoggedSurface σ)) (timeMs : Float) :
    animator.bare.present timeMs = Prod.map id bare <$> animator.present timeMs := by
  unfold present
  rw [draw_bare]
  cases animator.draw timeMs <;> rfl

variable [Scheduler κ]

/-- What is left of an outcome without the log. -/
def bareOutcome {ρ : Type} (outcome : FrameOutcome (LoggedSurface σ) ρ κ) : FrameOutcome σ ρ κ :=
  { outcome with animator := outcome.animator.bare }

theorem onFrame_bare {ρ : Type} [ResizeSource ρ] (animator : Animator (LoggedSurface σ))
    (timeMs : Float) (source : ρ) (scheduler : κ) :
    animator.bare.onFrame timeMs source scheduler =
      bareOutcome <$> animator.onFrame timeMs source scheduler := by
  have same : animator.bare.running = animator.running := rfl
  unfold onFrame
  rw [same, takeUp_bare]
  cases animator.running with
  | false => rfl
  | true =>
      cases animator.takeUp timeMs source with
      | error cause => rfl
      | ok taken =>
          rcases taken with ⟨applied, settled, rest⟩
          change (settled.bare.present timeMs >>= _) = bareOutcome <$> (settled.present timeMs >>= _)
          rw [present_bare]
          cases settled.present timeMs <;> rfl

theorem perform_bare (animator : Animator (LoggedSurface σ)) (scheduler : κ) (call : HostCall) :
    animator.bare.perform scheduler call =
      Prod.map id (Prod.map bare id) <$> animator.perform scheduler call := by
  cases call with
  | resize event => rfl
  | frame timeMs source =>
      change (animator.bare.onFrame timeMs source scheduler >>= _) =
        Prod.map id (Prod.map bare id) <$> (animator.onFrame timeMs source scheduler >>= _)
      rw [onFrame_bare]
      cases animator.onFrame timeMs source scheduler <;> rfl
  | stop => rfl

/-! ## What a call draws -/

/-- A frame that is drawn asks for the commands of a frame with so many
drawings as are counted. -/
theorem onFrame_logged {ρ : Type} [ResizeSource ρ] {animator : Animator σ} {timeMs : Float}
    {source : ρ} {scheduler : κ} {outcome : FrameOutcome (LoggedSurface σ) ρ κ}
    (answered : animator.logged.onFrame timeMs source scheduler = .ok outcome) :
    (outcome.report = none ∧ outcome.animator = animator.logged) ∨
      (outcome.report.isSome = true ∧
        outcome.animator.stats.lastDrawCalls = primitives outcome.animator.surface.drawn) := by
  refine (surface_onFrame answered).imp_right ?_
  rintro ⟨drew, frame, -, painted, counted⟩
  refine ⟨drew, counted.trans ?_⟩
  rw [LoggedSurface.paint_eq] at painted
  cases paints : frame.paint animator.logged.surface.surface with
  | error cause =>
      rw [paints] at painted
      cases painted
  | ok next =>
      rw [paints] at painted
      rw [← Except.ok.inj painted]
      exact (frame.primitives_commands _).symm

end Calls

end Animator

/-! ## Runs that are observed -/

/-- What a host can do with an animator: the calls, and any change of the
surface between two calls. -/
inductive HostMove (σ : Type) : Type 1
  | call (call : HostCall)
  | edit (surface : σ)

namespace Animator

variable {σ κ : Type} [Surface σ] [Scheduler κ]

/-- Make a move. -/
def make (animator : Animator σ) (scheduler : κ) : HostMove σ -> Except Fault (Animator σ × κ)
  | .call call => Prod.snd <$> animator.perform scheduler call
  | .edit surface => .ok ({ animator with surface }, scheduler)

/-- Make moves in order. -/
def makeAll (animator : Animator σ) (scheduler : κ) :
    List (HostMove σ) -> Except Fault (Animator σ × κ)
  | [] => .ok (animator, scheduler)
  | move :: moves => do
    let (animator, scheduler) <- animator.make scheduler move
    animator.makeAll scheduler moves

/-- Make a move, and see what is drawn on the surface if a frame is drawn. -/
def observe (animator : Animator σ) (scheduler : κ) :
    HostMove σ -> Except Fault (Option (List DrawCommand) × Animator σ × κ)
  | .call call => do
    let (answer, next, asked) <- animator.logged.perform scheduler call
    return (answer.report.map fun _ => next.surface.drawn, next.bare, asked)
  | .edit surface => .ok (none, { animator with surface }, scheduler)

/-- Make moves in order, and list for each frame what is drawn. -/
def observeAll (animator : Animator σ) (scheduler : κ) :
    List (HostMove σ) -> Except Fault (List (List DrawCommand) × Animator σ × κ)
  | [] => .ok ([], animator, scheduler)
  | move :: moves => do
    let (seen, animator, scheduler) <- animator.observe scheduler move
    let (frames, last) <- animator.observeAll scheduler moves
    return (seen.toList ++ frames, last)

variable {animator next last : Animator σ} {scheduler asked : κ}

/-- Being observed changes nothing, faults included. -/
theorem observe_snd (animator : Animator σ) (scheduler : κ) (move : HostMove σ) :
    Prod.snd <$> animator.observe scheduler move = animator.make scheduler move := by
  cases move with
  | edit surface => rfl
  | call call =>
      have plain := perform_bare animator.logged scheduler call
      rw [bare_logged] at plain
      rw [make, plain]
      change Prod.snd <$> (animator.logged.perform scheduler call >>= _) = _
      cases animator.logged.perform scheduler call <;> rfl

theorem observeAll_snd (animator : Animator σ) (scheduler : κ) (moves : List (HostMove σ)) :
    Prod.snd <$> animator.observeAll scheduler moves = animator.makeAll scheduler moves := by
  induction moves generalizing animator scheduler with
  | nil => rfl
  | cons move moves ih =>
      rw [observeAll, makeAll, ← observe_snd]
      cases animator.observe scheduler move with
      | error cause => rfl
      | ok observed =>
          rcases observed with ⟨seen, next, asked⟩
          change Prod.snd <$> (next.observeAll asked moves >>= _) = next.makeAll asked moves
          rw [← ih]
          cases next.observeAll asked moves <;> rfl

/-- The count is that of the frame that is drawn, or stays as it was. -/
theorem lastDrawCalls_observe {move : HostMove σ} {seen : Option (List DrawCommand)}
    (observed : animator.observe scheduler move = .ok (seen, next, asked)) :
    next.stats.lastDrawCalls = (seen.map primitives).getD animator.stats.lastDrawCalls := by
  cases move with
  | edit surface =>
      cases observed
      rfl
  | call call =>
      rcases Outcome.bind_eq_ok.mp observed with ⟨⟨answer, after, requested⟩, performed, made⟩
      cases made
      cases call with
      | resize event =>
          cases performed
          rfl
      | stop =>
          cases performed
          rfl
      | frame timeMs source =>
          rcases Outcome.bind_eq_ok.mp performed with ⟨outcome, answered, made⟩
          cases made
          rcases onFrame_logged answered with ⟨none, same⟩ | ⟨some, counted⟩
          · rw [none, same]
            rfl
          · rcases Option.isSome_iff_exists.mp some with ⟨report, reported⟩
            rw [reported]
            exact counted

/-- After any moves the count is that of the last frame that was drawn. -/
theorem lastDrawCalls_observeAll {moves : List (HostMove σ)} {frames : List (List DrawCommand)}
    (observed : animator.observeAll scheduler moves = .ok (frames, last, asked)) :
    last.stats.lastDrawCalls =
      (frames.getLast?.map primitives).getD animator.stats.lastDrawCalls := by
  induction moves generalizing animator scheduler frames with
  | nil =>
      cases observed
      rfl
  | cons move moves ih =>
      rcases Outcome.bind_eq_ok.mp observed with ⟨⟨seen, next, requested⟩, first, rest⟩
      rcases Outcome.bind_eq_ok.mp rest with ⟨⟨others, final⟩, later, made⟩
      cases made
      rw [ih later, lastDrawCalls_observe first, List.getLast?_append]
      cases others.getLast? with
      | some drawn => rfl
      | none => cases seen <;> rfl

end Animator

/-! ## The commands of a frame -/

namespace RecordingSurface

/-- A recording surface has the size of a view exactly if that was the last
size it was given. -/
theorem size_eq_iff (recorder : RecordingSurface) (viewport : Viewport) :
    Surface.size recorder = viewport.physicalSize ↔
      recorder.lastSize = some viewport.physicalSize := by
  change recorder.lastSize.getD ⟨0, 0⟩ = _ ↔ _
  cases recorder.lastSize with
  | none => exact iff_of_false (size_fresh_ne viewport) nofun
  | some size => exact Option.some_inj.symm

end RecordingSurface

namespace Animator

/-- Painting a frame records a change of size if the size is another one, the
clearing, the gradients, each star over its glow, and the overlays, all scaled
to physical pixels.  The frame knows the number of the drawings among these.  What a
host does, with surfaces of any kind, goes on as it would if nobody saw what is
drawn; and after all of it the count of an animator is the number of drawings that
its last frame asked for, and zero before the first. -/
theorem lastDrawCalls_eq_primitives :
    (forall (frame : Frame) (recorder : RecordingSurface),
      let scale := narrow frame.viewport.pixelRatio
      let size := frame.viewport.physicalSize
      let appended : List DrawCommand :=
        (if recorder.lastSize = some size then [] else [.resize size]) ++
        [.clear frame.background] ++
        frame.nebulae.map (fun disc =>
          .gradient (disc.center.scale scale) (disc.radius * scale) disc.color) ++
        frame.stars.flatMap (fun star =>
          (if 0 < star.glow then [.gradient (star.center.scale scale)
            ((star.radius + star.glow) * scale) star.haloColor] else []) ++
          [.circle (star.center.scale scale) (star.radius * scale) star.color]) ++
        frame.overlay.vignette.toList.map .vignette ++
        frame.overlay.lightBeam.toList.map .lightBeam
      (Exists fun recorded => frame.paint recorder = .ok recorded ∧
        recorded.commands.toList = recorder.commands.toList ++ appended) ∧
      primitives appended = frame.drawCallCount) ∧
    (forall (σ κ : Type) [Surface σ] [Scheduler κ] (animator : Animator σ) (scheduler : κ)
      (moves : List (HostMove σ)),
      Prod.snd <$> animator.observeAll scheduler moves = animator.makeAll scheduler moves) ∧
    forall (σ κ : Type) [Surface σ] [Scheduler κ] (settings : Settings) (view : Viewport)
      (surface : Option σ) (scheduler first asked : κ) (animator last : Animator σ)
      (moves : List (HostMove σ)) (frames : List (List DrawCommand)),
      (launch settings view surface).run.run scheduler = .ok (.ok animator, first) ->
      animator.observeAll first moves = .ok (frames, last, asked) ->
      last.stats.lastDrawCalls = (frames.getLast?.map primitives).getD 0 := by
  refine ⟨fun frame recorder => ?_, fun σ κ _ _ => observeAll_snd, fun σ κ _ _ settings view surface
    scheduler first asked animator last moves frames launched observed => ?_⟩
  · intro scale size appended
    have spelled : appended = frame.commands (Surface.size recorder) := by
      unfold Frame.commands Frame.details
      rw [if_congr (recorder.size_eq_iff frame.viewport) rfl rfl]
      simp only [appended, List.append_assoc]
      rfl
    rw [spelled]
    exact ⟨RecordingSurface.paint_spec frame recorder, frame.primitives_commands _⟩
  · rcases of_launch_eq_ok launched with ⟨-, ⟨field, drawable, -, -, rfl⟩, -⟩
    exact lastDrawCalls_observeAll observed

/-- Nothing but the two overlays. -/
def veiledSky : Settings where
  field := { layers := [], nebula := { count := 0 }, overlay := ⟨some {}, some {}⟩ }

/-- The surface is replaced behind the only frame that is drawn before the
animator is stopped. -/
theorem lastDrawCalls_eq_primitives_veiledSky : Exists fun animator => Exists fun first =>
    Exists fun drawn => Exists fun last => Exists fun asked =>
      (launch veiledSky .smallest (some ({} : RecordingSurface))).run.run ({} : FrameRequests) =
        .ok (.ok animator, first) ∧
      animator.observeAll first [.call (.frame 0 ()), .edit {}, .call .stop, .call (.frame 16 ())] =
        .ok ([drawn], last, asked) ∧
      animator.makeAll first [.call (.frame 0 ()), .edit {}, .call .stop, .call (.frame 16 ())] =
        .ok (last, asked) ∧
      last.stats.lastDrawCalls = primitives drawn ∧ primitives drawn = 2 := by
  have accepted := (Settings.validate_eq_ok veiledSky).mp rfl
  rcases launch_of_accepted accepted .smallest ({} : RecordingSurface) with ⟨field, laidOut, launches⟩
  have launched := launches FrameRequests {}
  have counted : ((launch veiledSky .smallest (some ({} : RecordingSurface))).run.run
      ({} : FrameRequests)).toOption.bind (fun started => started.1.toOption.bind fun animator =>
        (animator.observeAll started.2
          [.call (.frame 0 ()), .edit {}, .call .stop, .call (.frame 16 ())]).toOption.map
            fun observed => observed.1.map primitives) = some [2] := by
    decide +kernel
  rw [launched] at counted
  rcases Option.map_eq_some_iff.mp counted with ⟨⟨frames, last, asked⟩, observes, drawings⟩
  rcases List.map_eq_singleton_iff.mp drawings with ⟨drawn, rfl, two⟩
  have observed := Outcome.toOption_eq_some.mp observes
  have count := lastDrawCalls_eq_primitives.2.2 RecordingSurface FrameRequests veiledSky .smallest _
    _ _ asked _ last _ _ launched observed
  have unseen := (congrArg (Prod.snd <$> ·) observed).symm.trans
    (lastDrawCalls_eq_primitives.2.1 RecordingSurface FrameRequests _ _ _)
  exact ⟨_, _, drawn, last, asked, launched, observed, unseen.symm, count, two⟩

end Animator

end Starfield
