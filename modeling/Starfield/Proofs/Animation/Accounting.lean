import Starfield.Proofs.Animation.Steps
import Starfield.Proofs.Picture.Painting

namespace Starfield

/-!
# The books of an animator

An animator counts what it does in several places: in its statistics, in its
debouncer, in its field and by the frames it asks for.  The counts belong
together.  Every change of the view that was taken up has been applied, dropped
for a later one, or is still held back; every frame that was drawn was reported
and has asked for the next one.
-/

/-- What a host can do with an animator.  Every frame brings a source of its
own kind. -/
inductive HostCall : Type 1
  | resize (event : ResizeEvent)
  | frame (timeMs : Float) {ρ : Type} [ResizeSource ρ] (source : ρ)
  | stop

/-- What the host sees of a call: the changes that it drained from its source,
and the report of a frame. -/
structure HostAnswer where
  drained : List ResizeEvent := []
  report : Option FrameReport := none

namespace Animator

section Calls

variable {σ κ : Type} [Surface σ] [Scheduler κ]

/-- Perform a call.  A stopped animator leaves the source of a frame alone. -/
def perform (animator : Animator σ) (scheduler : κ) :
    HostCall -> Except Fault (HostAnswer × Animator σ × κ)
  | .resize event => .ok ({}, animator.onResize event, scheduler)
  | @HostCall.frame timeMs _ _ source => do
    let outcome <- animator.onFrame timeMs source scheduler
    let drained := if animator.running then (ResizeSource.drain timeMs source).1 else []
    return (⟨drained, outcome.report⟩, outcome.animator, outcome.scheduler)
  | .stop => .ok ({}, animator.stop, scheduler)

/-- Perform calls in order and keep the answers. -/
def performAll (animator : Animator σ) (scheduler : κ) :
    List HostCall -> Except Fault (List HostAnswer × Animator σ × κ)
  | [] => .ok ([], animator, scheduler)
  | call :: calls => do
    let (answer, animator, scheduler) <- animator.perform scheduler call
    let (answers, last) <- animator.performAll scheduler calls
    return (answer :: answers, last)

theorem performAll_cons_eq_ok {animator last : Animator σ} {scheduler asked : κ} {call : HostCall}
    {calls : List HostCall} {answers : List HostAnswer} :
    animator.performAll scheduler (call :: calls) = .ok (answers, last, asked) ↔
      Exists fun answer => Exists fun next => Exists fun requested => Exists fun others =>
        animator.perform scheduler call = .ok (answer, next, requested) ∧
        next.performAll requested calls = .ok (others, last, asked) ∧
        answer :: others = answers := by
  constructor
  · intro performed
    rcases Outcome.bind_eq_ok.mp performed with ⟨⟨answer, next, requested⟩, first, rest⟩
    rcases Outcome.bind_eq_ok.mp rest with ⟨⟨others, final⟩, later, made⟩
    cases made
    exact ⟨answer, next, requested, others, first, later, rfl⟩
  · rintro ⟨answer, next, requested, others, first, later, rfl⟩
    exact Outcome.bind_eq_ok.mpr ⟨_, first, Outcome.bind_eq_ok.mpr ⟨_, later, rfl⟩⟩

end Calls

end Animator

namespace HostCall

/-- The number of changes that the host reported on its own. -/
def resizes : List HostCall -> ℕ
  | [] => 0
  | .resize _ :: calls => resizes calls + 1
  | _ :: calls => resizes calls

theorem resizes_cons (call : HostCall) (calls : List HostCall) :
    resizes (call :: calls) = resizes [call] + resizes calls := by
  cases call <;> simp only [resizes] <;> omega

end HostCall

namespace HostAnswer

/-- The number of changes that frames drained from their sources. -/
def drainedCount (answers : List HostAnswer) : ℕ :=
  (answers.map fun answer => answer.drained.length).sum

/-- The number of frames that were drawn. -/
def frameCount (answers : List HostAnswer) : ℕ :=
  answers.countP fun answer => answer.report.isSome

/-- The number of frames that report a new layout. -/
def regeneratedCount (answers : List HostAnswer) : ℕ :=
  answers.countP fun answer => answer.report.any (·.regenerated)

variable (answer : HostAnswer) (answers : List HostAnswer)

theorem drainedCount_cons :
    drainedCount (answer :: answers) = answer.drained.length + drainedCount answers := by
  rw [drainedCount, List.map_cons, List.sum_cons]
  rfl

theorem frameCount_cons : frameCount (answer :: answers) =
    (if answer.report.isSome then 1 else 0) + frameCount answers := by
  rw [frameCount, List.countP_cons, Nat.add_comm]
  rfl

theorem regeneratedCount_cons : regeneratedCount (answer :: answers) =
    (if answer.report.any (·.regenerated) then 1 else 0) + regeneratedCount answers := by
  rw [regeneratedCount, List.countP_cons, Nat.add_comm]
  rfl

end HostAnswer

variable {σ κ : Type}

/-- The counts of an animator agree with what has happened: so many changes
taken up, so many layouts since the start, so many frames. -/
structure Animator.Balanced (animator : Animator σ) (taken regenerated rendered : ℕ) : Prop where
  regenerations : animator.stats.regenerations = animator.field.generation
  generation : animator.field.generation = 1 + regenerated
  resizeEvents : animator.stats.resizeEvents = taken
  conserved : taken = regenerated + animator.debouncer.coalesced +
    if animator.debouncer.isPending then 1 else 0
  framesRendered : animator.stats.framesRendered = rendered
  starCount : animator.stats.starCount = animator.field.population.stars.length
  viewportWidth : animator.stats.viewportWidth = animator.field.viewport.width
  viewportHeight : animator.stats.viewportHeight = animator.field.viewport.height

namespace Animator.Balanced

variable {animator : Animator σ} {taken regenerated rendered : ℕ}

theorem onResize (balanced : Balanced animator taken regenerated rendered) (event : ResizeEvent) :
    Balanced (animator.onResize event) (taken + 1) regenerated rendered where
  regenerations := balanced.regenerations
  generation := balanced.generation
  resizeEvents := congrArg (· + 1) balanced.resizeEvents
  conserved := by
    have conserved := balanced.conserved
    change taken + 1 = regenerated + (animator.debouncer.coalesced +
      if animator.debouncer.isPending then 1 else 0) + 1
    omega
  framesRendered := balanced.framesRendered
  starCount := balanced.starCount
  viewportWidth := balanced.viewportWidth
  viewportHeight := balanced.viewportHeight

theorem onResizes (balanced : Balanced animator taken regenerated rendered)
    (events : List ResizeEvent) :
    Balanced (events.foldl Animator.onResize animator) (taken + events.length) regenerated
      rendered := by
  induction events generalizing animator taken with
  | nil => exact balanced
  | cons event events ih =>
      have all := ih (balanced.onResize event)
      rwa [Nat.add_assoc, Nat.add_comm 1] at all

theorem settle (balanced : Balanced animator taken regenerated rendered) {timeMs : Float}
    {applied : Option ResizeEvent} {settled : Animator σ}
    (settles : animator.settle timeMs = .ok (applied, settled)) :
    Balanced settled taken (regenerated + if applied.isSome then 1 else 0) rendered := by
  rcases of_settle_eq_ok settles with ⟨event, field, held, -, laidOut, rfl, rfl⟩ | ⟨-, rfl, rfl⟩
  · -- The change that was held back becomes a layout; the sum stays the same.
    have conserved := balanced.conserved
    have generation := (ParticleField.of_resize_eq_ok laidOut).2.2
    have pending : animator.debouncer.isPending = true := by
      rw [ResizeDebouncer.isPending, held]
      rfl
    rw [pending] at conserved
    exact {
      regenerations := rfl
      generation := generation.trans (congrArg (· + 1) balanced.generation)
      resizeEvents := balanced.resizeEvents
      conserved := by
        change taken = regenerated + 1 + animator.debouncer.coalesced + 0
        simp only [if_true] at conserved
        omega
      framesRendered := balanced.framesRendered
      starCount := rfl
      viewportWidth := rfl
      viewportHeight := rfl }
  · exact balanced

theorem draw [Surface σ] (balanced : Balanced animator taken regenerated rendered)
    {timeMs : Float} {drawCalls : ℕ} {drawn : Animator σ}
    (draws : animator.draw timeMs = .ok (drawCalls, drawn)) :
    Balanced drawn taken regenerated rendered := by
  rcases of_draw_eq_ok draws with ⟨frame, field, surface, ticked, -, -, rfl⟩
  rcases ParticleField.of_tick_eq_ok ticked with ⟨steps, rfl, -⟩
  exact {
    regenerations := balanced.regenerations
    generation := balanced.generation
    resizeEvents := balanced.resizeEvents
    conserved := balanced.conserved
    framesRendered := balanced.framesRendered
    starCount := balanced.starCount.trans (List.length_map _).symm
    viewportWidth := balanced.viewportWidth
    viewportHeight := balanced.viewportHeight }

theorem count (balanced : Balanced animator taken regenerated rendered) (timeMs : Float)
    (drawCalls : ℕ) :
    Balanced (animator.count timeMs drawCalls).2 taken regenerated (rendered + 1) where
  regenerations := balanced.regenerations
  generation := balanced.generation
  resizeEvents := balanced.resizeEvents
  conserved := balanced.conserved
  framesRendered := congrArg (· + 1) balanced.framesRendered
  starCount := balanced.starCount
  viewportWidth := balanced.viewportWidth
  viewportHeight := balanced.viewportHeight

theorem stop (balanced : Balanced animator taken regenerated rendered) :
    Balanced animator.stop taken regenerated rendered where
  regenerations := balanced.regenerations
  generation := balanced.generation
  resizeEvents := balanced.resizeEvents
  conserved := balanced.conserved
  framesRendered := balanced.framesRendered
  starCount := balanced.starCount
  viewportWidth := balanced.viewportWidth
  viewportHeight := balanced.viewportHeight

/-- A frame keeps the books: it takes up what it drains, and reports what it
applied. -/
theorem onFrame {ρ : Type} [Surface σ] [ResizeSource ρ] [Scheduler κ]
    (balanced : Balanced animator taken regenerated rendered) {timeMs : Float} {source : ρ}
    {scheduler : κ} {outcome : FrameOutcome σ ρ κ}
    (answered : animator.onFrame timeMs source scheduler = .ok outcome) :
    let drained := if animator.running then (ResizeSource.drain timeMs source).1 else []
    Balanced outcome.animator (taken + drained.length)
      (regenerated + if outcome.report.any (·.regenerated) then 1 else 0)
      (rendered + if outcome.report.isSome then 1 else 0) ∧
    outcome.scheduler = if outcome.report.isSome then Scheduler.request scheduler else scheduler := by
  rcases of_onFrame_eq_ok answered with ⟨stopped, rfl⟩ |
    ⟨running, applied, settled, drawCalls, drawn, settles, draws, rfl⟩
  · rw [stopped]
    exact ⟨balanced, rfl⟩
  · rw [running]
    exact ⟨(((balanced.onResizes _).settle settles).draw draws).count timeMs drawCalls, rfl⟩

theorem perform [Surface σ] [Scheduler κ]
    (balanced : Balanced animator taken regenerated rendered) {scheduler asked : κ}
    {call : HostCall} {answer : HostAnswer} {next : Animator σ}
    (performed : animator.perform scheduler call = .ok (answer, next, asked)) :
    Balanced next (taken + HostCall.resizes [call] + answer.drained.length)
      (regenerated + if answer.report.any (·.regenerated) then 1 else 0)
      (rendered + if answer.report.isSome then 1 else 0) ∧
    asked = if answer.report.isSome then Scheduler.request scheduler else scheduler := by
  cases call with
  | resize event =>
      cases performed
      exact ⟨balanced.onResize event, rfl⟩
  | frame timeMs source =>
      rcases Outcome.bind_eq_ok.mp performed with ⟨outcome, answered, made⟩
      cases made
      exact balanced.onFrame answered
  | stop =>
      cases performed
      exact ⟨balanced.stop, rfl⟩

/-- Every run keeps the books. -/
theorem performAll [Surface σ] [Scheduler κ]
    (balanced : Balanced animator taken regenerated rendered) {scheduler asked : κ}
    {calls : List HostCall} {answers : List HostAnswer} {last : Animator σ}
    (performed : animator.performAll scheduler calls = .ok (answers, last, asked)) :
    Balanced last (taken + (HostCall.resizes calls + HostAnswer.drainedCount answers))
      (regenerated + HostAnswer.regeneratedCount answers)
      (rendered + HostAnswer.frameCount answers) ∧
    asked = Scheduler.request^[HostAnswer.frameCount answers] scheduler := by
  induction calls generalizing animator scheduler taken regenerated rendered answers with
  | nil =>
      cases performed
      exact ⟨balanced, rfl⟩
  | cons call calls ih =>
      rcases performAll_cons_eq_ok.mp performed with
        ⟨answer, next, requested, others, first, later, rfl⟩
      rcases balanced.perform first with ⟨step, request⟩
      rcases ih step later with ⟨all, requests⟩
      rw [HostCall.resizes_cons, HostAnswer.drainedCount_cons, HostAnswer.frameCount_cons,
        HostAnswer.regeneratedCount_cons]
      constructor
      · convert all using 1 <;> omega
      · rw [requests, request]
        cases answer.report.isSome
        · simp only [Bool.false_eq_true, if_false, Nat.zero_add]
        · rw [if_pos rfl, if_pos rfl, Nat.add_comm, Function.iterate_succ_apply]

end Animator.Balanced

namespace Animator

theorem balanced_initial {settings : Settings} {view : Viewport} {field : ParticleField}
    (laidOut : (ParticleField.blank settings.field).resize view = .ok field) (surface : σ) :
    (initial settings field surface).Balanced 0 0 0 where
  regenerations := rfl
  generation := (ParticleField.of_resize_eq_ok laidOut).2.2
  resizeEvents := rfl
  conserved := rfl
  framesRendered := rfl
  starCount := rfl
  viewportWidth := rfl
  viewportHeight := rfl

section Answers

variable [Surface σ] [Scheduler κ]

theorem perform_ok (faultless : Surface.Faultless σ) {animator : Animator σ}
    (accepted : animator.field.settings.Accepted) (scheduler : κ) (call : HostCall) :
    Exists fun answer => Exists fun next => Exists fun asked =>
      animator.perform scheduler call = .ok (answer, next, asked) ∧
        next.field.settings = animator.field.settings := by
  cases call with
  | resize event => exact ⟨_, _, _, rfl, rfl⟩
  | frame timeMs source =>
      rcases onFrame_total accepted timeMs source scheduler with
        ⟨frame, cause, fault, -⟩ | ⟨outcome, answered⟩
      · rcases frame.paint_ok faultless animator.surface with ⟨painted, drawn⟩
        cases fault.symm.trans drawn
      · exact ⟨_, _, _, Outcome.bind_eq_ok.mpr ⟨outcome, answered, rfl⟩, onFrame_settings answered⟩
  | stop => exact ⟨_, _, _, rfl, rfl⟩

/-- Where no drawing faults every call is answered. -/
theorem performAll_ok (faultless : Surface.Faultless σ) {animator : Animator σ}
    (accepted : animator.field.settings.Accepted) (scheduler : κ) (calls : List HostCall) :
    Exists fun answers => Exists fun last => Exists fun asked =>
      animator.performAll scheduler calls = .ok (answers, last, asked) := by
  induction calls generalizing animator scheduler with
  | nil => exact ⟨_, _, _, rfl⟩
  | cons call calls ih =>
      rcases perform_ok faultless accepted scheduler call with ⟨answer, next, asked, first, same⟩
      rcases ih (same ▸ accepted) asked with ⟨answers, last, final, later⟩
      refine ⟨answer :: answers, last, final, ?_⟩
      exact performAll_cons_eq_ok.mpr ⟨answer, next, asked, answers, first, later, rfl⟩

end Answers

/-- The books are right after every run that a launch begins, and the scheduler
was asked once for the start and once for each frame that was drawn.  A launch
that is refused has asked for nothing, and settings that are not accepted or
the lack of a surface have it refused. -/
theorem launch_balanced [Surface σ] [Scheduler κ] (settings : Settings) (view : Viewport)
    (surface : Option σ) (scheduler : κ) :
    (forall (animator last : Animator σ) (first asked : κ) (calls : List HostCall)
        (answers : List HostAnswer),
      (launch settings view surface).run.run scheduler = .ok (.ok animator, first) ->
      animator.performAll first calls = .ok (answers, last, asked) ->
      last.Balanced (HostCall.resizes calls + HostAnswer.drainedCount answers)
        (HostAnswer.regeneratedCount answers) (HostAnswer.frameCount answers) ∧
      asked = Scheduler.request^[1 + HostAnswer.frameCount answers] scheduler) ∧
    (forall (refusal : RunError) (after : κ),
      (launch settings view surface).run.run scheduler = .ok (.error refusal, after) ->
      after = scheduler) ∧
    (settings.validate ≠ .ok () ∨ surface = none -> Exists fun refusal =>
      (launch settings view surface).run.run scheduler = .ok (.error refusal, scheduler)) := by
  refine ⟨fun animator last first asked calls answers launched performed => ?_,
    fun refusal after launched => (of_launch_eq_error launched).2, fun lacking => ?_⟩
  · rcases of_launch_eq_ok launched with ⟨-, ⟨field, drawable, -, laidOut, rfl⟩, rfl⟩
    have books := (balanced_initial laidOut drawable).performAll performed
    rw [Nat.zero_add, Nat.zero_add, Nat.zero_add] at books
    rw [Nat.add_comm 1, Function.iterate_succ_apply]
    exact books
  · by_cases accepted : settings.Accepted
    · have passed := (Settings.validate_eq_ok settings).mpr accepted
      rw [lacking.resolve_left (not_not.mpr passed)]
      exact ⟨_, launch_without_surface accepted view κ scheduler⟩
    · rcases launch_of_not_accepted accepted view surface with ⟨cause, outcome⟩
      exact ⟨_, outcome κ scheduler⟩

/-- Changes from both sides, frames and a stop, on a surface that records; and a
launch without a surface. -/
theorem launch_balanced_recording : (Exists fun animator => Exists fun first =>
      (launch {} .smallest (some ({} : RecordingSurface))).run.run ({} : FrameRequests) =
        .ok (.ok animator, first) ∧
      Exists fun answers => Exists fun last => Exists fun asked =>
        animator.performAll first [.resize ⟨640, 480, 1, 0⟩, .frame 60 (⟨[⟨800, 600, 1, 50⟩]⟩ :
          ScriptedResizes), .frame 170 (), .stop, .frame 200 ()] = .ok (answers, last, asked) ∧
        last.Balanced (1 + HostAnswer.drainedCount answers) (HostAnswer.regeneratedCount answers)
          (HostAnswer.frameCount answers)) ∧
    Exists fun refusal => (launch {} .smallest (none : Option RecordingSurface)).run.run
      ({} : FrameRequests) = .ok (.error refusal, {}) := by
  have accepted : Settings.Accepted {} := (Settings.validate_eq_ok {}).mp rfl
  constructor
  · rcases launch_of_accepted accepted .smallest ({} : RecordingSurface) with
      ⟨field, laidOut, launches⟩
    have launched := launches FrameRequests {}
    have kept : (initial {} field ({} : RecordingSurface)).field.settings.Accepted :=
      (ParticleField.of_resize_eq_ok laidOut).1 ▸ accepted.field
    refine ⟨_, _, launched, ?_⟩
    rcases performAll_ok RecordingSurface.faultless kept (Scheduler.request ({} : FrameRequests))
      [.resize ⟨640, 480, 1, 0⟩, .frame 60 (⟨[⟨800, 600, 1, 50⟩]⟩ : ScriptedResizes),
        .frame 170 (), .stop, .frame 200 ()] with ⟨answers, last, asked, performed⟩
    have books := (launch_balanced {} .smallest (some ({} : RecordingSurface))
      ({} : FrameRequests)).1 _ last _ asked _ answers launched performed
    exact ⟨answers, last, asked, performed, books.1⟩
  · exact (launch_balanced {} .smallest none ({} : FrameRequests)).2.2 (Or.inr rfl)

end Animator

end Starfield
