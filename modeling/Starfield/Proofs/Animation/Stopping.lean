import Starfield.Proofs.Animation.Accounting

namespace Starfield

/-!
# Stopped animators

A stop is never undone.  Only the call for a frame looks whether the animator
was stopped, and it looks before it does anything else.  A change that the host
reports is still counted and held back, but nothing applies it any more: it
would take a frame to see that it is due.
-/

namespace Animator

variable {σ κ : Type}

/-- An animator that was stopped, some calls later.  Of the changes reported
since then it knows no more than their number and the last of them, which it
holds back. -/
structure RestsSince (later stopped : Animator σ) (reported : ℕ) : Prop where
  running : later.running = false
  field : later.field = stopped.field
  surface : later.surface = stopped.surface
  stats : later.stats =
    { stopped.stats with resizeEvents := stopped.stats.resizeEvents + reported }

namespace RestsSince

variable {later stopped : Animator σ} {reported : ℕ}

theorem refl (halted : stopped.running = false) : stopped.RestsSince stopped 0 :=
  ⟨halted, rfl, rfl, rfl⟩

theorem onResize (rests : later.RestsSince stopped reported) (event : ResizeEvent) :
    (later.onResize event).RestsSince stopped (reported + 1) where
  running := rests.running
  field := rests.field
  surface := rests.surface
  stats := by
    change { later.stats with resizeEvents := later.stats.resizeEvents + 1 } = _
    rw [rests.stats, Nat.add_assoc]

theorem stop (rests : later.RestsSince stopped reported) :
    later.stop.RestsSince stopped reported :=
  ⟨rfl, rests.field, rests.surface, rests.stats⟩

end RestsSince

section Calls

variable [Surface σ] [Scheduler κ] {animator later stopped : Animator σ} {reported : ℕ}

theorem RestsSince.perform (rests : later.RestsSince stopped reported) (scheduler : κ)
    (call : HostCall) : Exists fun next =>
      later.perform scheduler call = .ok ({}, next, scheduler) ∧
        next.RestsSince stopped (reported + HostCall.resizes [call]) := by
  cases call with
  | resize event => exact ⟨_, rfl, rests.onResize event⟩
  | frame timeMs source =>
      have ignored := onFrame_of_not_running rests.running timeMs source scheduler
      refine ⟨later, Outcome.bind_eq_ok.mpr ⟨_, ignored, ?_⟩, rests⟩
      rw [rests.running]
      rfl
  | stop => exact ⟨_, rfl, rests.stop⟩

/-- Calls of a stopped animator are all answered, each with nothing. -/
theorem RestsSince.performAll (rests : later.RestsSince stopped reported) (scheduler : κ)
    (calls : List HostCall) : Exists fun last =>
      later.performAll scheduler calls = .ok (List.replicate calls.length {}, last, scheduler) ∧
        last.RestsSince stopped (reported + HostCall.resizes calls) := by
  induction calls generalizing later reported with
  | nil => exact ⟨later, rfl, rests⟩
  | cons call calls ih =>
      rcases rests.perform scheduler call with ⟨next, first, restsNext⟩
      rcases ih restsNext with ⟨last, others, restsLast⟩
      refine ⟨last, ?_, ?_⟩
      · exact performAll_cons_eq_ok.mpr ⟨_, next, scheduler, _, first, others, rfl⟩
      · rwa [HostCall.resizes_cons, ← Nat.add_assoc]

/-- Whatever came before the stop and behind it, the animator is stopped in the
end. -/
theorem not_running_of_mem_stop {reached : Animator σ} {scheduler asked : κ}
    {calls : List HostCall} {answers : List HostAnswer}
    (performed : animator.performAll scheduler calls = .ok (answers, reached, asked))
    (member : HostCall.stop ∈ calls) : reached.running = false := by
  induction calls generalizing animator scheduler answers with
  | nil => cases member
  | cons call calls ih =>
      rcases performAll_cons_eq_ok.mp performed with
        ⟨answer, next, requested, others, first, later, rfl⟩
      rcases List.mem_cons.mp member with rfl | behind
      · -- The rest of the calls finds a stopped animator.
        cases first
        have atRest : animator.stop.RestsSince animator.stop 0 := .refl rfl
        rcases atRest.performAll scheduler calls with ⟨last, same, rests⟩
        cases later.symm.trans same
        exact rests.running
      · exact ih later behind

end Calls

/-- In a run with a stop nothing further is drawn, drained or asked for: every
call is answered with nothing, the scheduler stays as it was, and of the
animator only the number of changes and the change that is held back go on.  At
no point is a source touched, whatever it is and would deliver. -/
theorem stop_is_final [Surface σ] [Scheduler κ] {animator reached : Animator σ}
    {scheduler asked : κ} {calls : List HostCall} {answers : List HostAnswer}
    (performed : animator.performAll scheduler calls = .ok (answers, reached, asked))
    (stopped : HostCall.stop ∈ calls) (further : List HostCall) : Exists fun last =>
      reached.performAll asked further = .ok (List.replicate further.length {}, last, asked) ∧
      last.RestsSince reached (HostCall.resizes further) ∧
      forall (ρ : Type) [ResizeSource ρ] (source : ρ) (timeMs : Float),
        last.onFrame timeMs source asked = .ok ⟨none, last, source, asked⟩ := by
  have halted := not_running_of_mem_stop performed stopped
  rcases (RestsSince.refl halted).performAll asked further with ⟨last, answered, rests⟩
  rw [Nat.zero_add] at rests
  refine ⟨last, answered, rests, fun ρ _ source timeMs => ?_⟩
  exact onFrame_of_not_running rests.running timeMs source asked

/-- A change that is held back when the animator is stopped is never applied,
nor are those that come later from both sides. -/
theorem stop_is_final_recording : Exists fun animator => Exists fun first =>
    Exists fun reached => Exists fun asked => Exists fun last =>
      (launch {} .smallest (some ({} : RecordingSurface))).run.run ({} : FrameRequests) =
        .ok (.ok animator, first) ∧
      animator.performAll first [.resize ⟨640, 480, 1, 0⟩, .stop] = .ok ([{}, {}], reached, asked) ∧
      reached.debouncer.isPending = true ∧
      reached.performAll asked [.frame 1000 (⟨[⟨800, 600, 1, 50⟩]⟩ : ScriptedResizes),
        .resize ⟨320, 200, 1, 1000⟩, .stop, .frame 5000 ()] =
          .ok (List.replicate 4 {}, last, asked) ∧
      last.RestsSince reached 1 := by
  have accepted : Settings.Accepted {} := (Settings.validate_eq_ok {}).mp rfl
  rcases launch_of_accepted accepted .smallest ({} : RecordingSurface) with ⟨field, -, launches⟩
  have performed : (initial {} field ({} : RecordingSurface)).performAll
      (Scheduler.request ({} : FrameRequests)) [.resize ⟨640, 480, 1, 0⟩, .stop] =
        .ok ([{}, {}], _, _) := rfl
  rcases stop_is_final performed (List.mem_cons_of_mem _ List.mem_cons_self)
    [.frame 1000 (⟨[⟨800, 600, 1, 50⟩]⟩ : ScriptedResizes), .resize ⟨320, 200, 1, 1000⟩, .stop,
      .frame 5000 ()] with ⟨last, answered, rests, -⟩
  exact ⟨_, _, _, _, last, launches FrameRequests {}, performed, rfl, answered, rests⟩

end Animator

end Starfield
