import Starfield.Proofs.Animation.Steps
import Starfield.Proofs.Number.Bounds
import Starfield.Proofs.Picture.Painting

namespace Starfield

/-!
# Bursts of changes

In a burst each change comes before the previous one has rested.  However
frames and changes interleave, a frame that is late enough to apply a change
has drained all of the burst before it looks: the next change could only be
missing if its own time were not reached, but that time comes no later than the
deadline.  So a burst is applied once, for its last change, by the first frame
that reaches the deadline of the last change.  The times of the frames need not
be in order for this.
-/

/-- Changes in the order of their times that leave no room for a quiet time
between them. -/
structure IsBurst (quietMs : Float) (events : List ResizeEvent) : Prop where
  quiet : IsNonNegative quietMs
  defined : forall event, event ∈ events -> IsDefined event.atMs
  ordered : events.Pairwise fun earlier later => earlier.atMs ≤ later.atMs
  close : events.IsChain fun event next => next.atMs ≤ event.atMs + quietMs

namespace IsBurst

variable {quietMs timeMs : Float} {events delivered left : List ResizeEvent}

/-- When a change that was delivered last has rested, no change is left. -/
theorem eq_nil_of_delivered (burst : IsBurst quietMs events) (whole : delivered ++ left = events)
    (early : forall next, next ∈ left.head? -> ¬next.atMs ≤ timeMs) {event : ResizeEvent}
    (isHeld : delivered.getLast? = some event) (rested : event.atMs + quietMs ≤ timeMs) :
    left = [] := by
  cases left with
  | nil => rfl
  | cons next left =>
      have close := burst.close
      rw [← whole, List.isChain_append] at close
      have soon := close.2.2 event isHeld next rfl
      exact absurd (number_le_trans soon rested) (early next rfl)

/-- When the last change of all has rested, no change is left. -/
theorem eq_nil_of_last (burst : IsBurst quietMs events) (whole : delivered ++ left = events)
    (early : forall next, next ∈ left.head? -> ¬next.atMs ≤ timeMs) {last : ResizeEvent}
    (isLast : events.getLast? = some last) (rested : last.atMs + quietMs ≤ timeMs) :
    left = [] := by
  cases left with
  | nil => rfl
  | cons next left =>
      have listed := List.mem_of_getLast? isLast
      have lastRests : last.atMs ≤ last.atMs + quietMs :=
        le_add_of_nonneg (burst.defined last listed) burst.quiet.finite burst.quiet.nonneg
      -- `next` may be the last change itself, of which the order says nothing.
      have notBefore : next.atMs ≤ last.atMs + quietMs := by
        rw [← whole, List.getLast?_append_cons] at isLast
        have ordered := burst.ordered
        rw [← whole, List.pairwise_append] at ordered
        rcases List.mem_cons.mp (List.mem_of_getLast? isLast) with rfl | later
        · exact lastRests
        · exact number_le_trans ((List.pairwise_cons.mp ordered.2.1).1 last later) lastRests
      exact absurd (number_le_trans notBefore rested) (early next rfl)

end IsBurst

namespace Animator

variable {σ κ : Type}

/-- Answer calls for frames at some times, with one source of changes. -/
def onFrames {ρ : Type} [Surface σ] [ResizeSource ρ] [Scheduler κ] (animator : Animator σ)
    (source : ρ) (scheduler : κ) : List Float -> Except Fault (Animator σ × ρ × κ)
  | [] => .ok (animator, source, scheduler)
  | timeMs :: times => do
    let outcome <- animator.onFrame timeMs source scheduler
    outcome.animator.onFrames outcome.source outcome.scheduler times

/-- A burst is on its way: some of it was delivered, and the last change that
was is held back. -/
structure Awaits (quietMs : Float) (events : List ResizeEvent) (animator : Animator σ)
    (source : ScriptedResizes) : Prop where
  running : animator.running = true
  accepted : animator.field.settings.Accepted
  quiet : animator.debouncer.quietMs = quietMs
  held : Exists fun delivered =>
    delivered ++ source.events = events ∧ animator.debouncer.Holds delivered

/-- A burst is over: nothing of it is left or held back. -/
structure IsOver (animator : Animator σ) (source : ScriptedResizes) : Prop where
  running : animator.running = true
  accepted : animator.field.settings.Accepted
  nothingLeft : source.events = []
  nothingHeld : animator.debouncer.pending = none

variable [Surface σ] [Scheduler κ] {quietMs timeMs : Float} {events : List ResizeEvent}
  {last : ResizeEvent} {animator : Animator σ} {source : ScriptedResizes} {scheduler : κ}
  {outcome : FrameOutcome σ ScriptedResizes κ}

/-- A frame applies the burst if it reaches the deadline of the last change,
and leaves it on its way else. -/
theorem Awaits.onFrame (awaits : Awaits quietMs events animator source)
    (burst : IsBurst quietMs events) (isLast : events.getLast? = some last)
    (answered : animator.onFrame timeMs source scheduler = .ok outcome) :
    (¬last.atMs + quietMs ≤ timeMs ∧ Awaits quietMs events outcome.animator outcome.source ∧
      Exists fun drawCalls => outcome.report = some ⟨timeMs, drawCalls, false⟩) ∨
    (last.atMs + quietMs ≤ timeMs ∧ IsOver outcome.animator outcome.source ∧
      (Exists fun drawCalls => outcome.report = some ⟨timeMs, drawCalls, true⟩) ∧
      outcome.animator.field.viewport = last.viewport) := by
  have accepted := (onFrame_settings answered).symm ▸ awaits.accepted
  rcases ScriptedResizes.drain_spec timeMs source with ⟨due, left, drained, split, early⟩
  rcases awaits.held with ⟨delivered, parts, held⟩
  have whole : (delivered ++ due) ++ left = events := by
    rw [List.append_assoc, split, parts]
  have arrived := held.pushAll due
  have quiet := (animator.debouncer.quietMs_pushAll due).trans awaits.quiet
  have taken := of_onFrame_of_running awaits.running answered
  rw [drained] at taken
  rcases taken with ⟨running, rest, drawCalls, ⟨event, pending, rested, report, debouncer, shown⟩ |
    ⟨unrested, report, debouncer⟩⟩
  · -- What was held back was delivered last, so nothing is left and it is the
    -- last change of all.
    right
    have isHeld := arrived.pending.symm.trans pending
    rw [arrived.deadlineMs event isHeld, quiet] at rested
    have nothing := burst.eq_nil_of_delivered whole early isHeld rested
    rw [nothing, List.append_nil] at whole
    rw [whole, isLast] at isHeld
    cases isHeld
    refine ⟨rested, ⟨running, accepted, ?_, ?_⟩, ⟨drawCalls, report⟩, shown⟩
    · rw [rest, nothing]
    · rw [debouncer]
  · -- Had the last change rested, all of the burst would be delivered and the
    -- poll would have handed that change out.
    left
    refine ⟨fun rested => ?_, ⟨running, accepted, ?_, delivered ++ due, ?_, ?_⟩, ⟨drawCalls, report⟩⟩
    · have nothing := burst.eq_nil_of_last whole early isLast rested
      rw [nothing, List.append_nil] at whole
      rw [whole] at arrived
      rcases unrested with none | late
      · cases none.symm.trans (arrived.pending.trans isLast)
      · rw [arrived.deadlineMs last isLast, quiet] at late
        exact late rested
    · rw [debouncer, quiet]
    · rw [rest, whole]
    · rwa [debouncer]

/-- Once a burst is over, frames apply nothing. -/
theorem IsOver.onFrame (ended : IsOver animator source)
    (answered : animator.onFrame timeMs source scheduler = .ok outcome) :
    IsOver outcome.animator outcome.source ∧
      Exists fun drawCalls => outcome.report = some ⟨timeMs, drawCalls, false⟩ := by
  have accepted := (onFrame_settings answered).symm ▸ ended.accepted
  rcases ScriptedResizes.drain_spec timeMs source with ⟨due, left, drained, split, -⟩
  rw [ended.nothingLeft] at split
  rcases List.append_eq_nil_iff.mp split with ⟨rfl, rfl⟩
  have taken := of_onFrame_of_running ended.running answered
  rw [drained] at taken
  rcases taken with ⟨running, rest, drawCalls, ⟨event, pending, -⟩ | ⟨-, report, debouncer⟩⟩
  · cases pending.symm.trans ended.nothingHeld
  · refine ⟨⟨running, accepted, ?_, ?_⟩, drawCalls, report⟩
    · rw [rest]
    · rw [debouncer]
      exact ended.nothingHeld

theorem IsOver.onFrames {times : List Float} {current : Animator σ} {rest : ScriptedResizes}
    {asked : κ} (ended : IsOver animator source)
    (answered : animator.onFrames source scheduler times = .ok (current, rest, asked)) :
    IsOver current rest := by
  induction times generalizing animator source scheduler with
  | nil =>
      cases answered
      exact ended
  | cons timeMs times ih =>
      rcases Outcome.bind_eq_ok.mp answered with ⟨outcome, first, later⟩
      exact ih (ended.onFrame first).1 later

/-- Frames end the burst exactly if one of them reaches the deadline of the
last change. -/
theorem Awaits.onFrames {times : List Float} {current : Animator σ} {rest : ScriptedResizes}
    {asked : κ} (awaits : Awaits quietMs events animator source) (burst : IsBurst quietMs events)
    (isLast : events.getLast? = some last)
    (answered : animator.onFrames source scheduler times = .ok (current, rest, asked)) :
    ((forall timeMs, timeMs ∈ times -> ¬last.atMs + quietMs ≤ timeMs) ∧
      Awaits quietMs events current rest) ∨
    ((Exists fun timeMs => timeMs ∈ times ∧ last.atMs + quietMs ≤ timeMs) ∧
      IsOver current rest) := by
  induction times generalizing animator source scheduler with
  | nil =>
      cases answered
      exact Or.inl ⟨nofun, awaits⟩
  | cons timeMs times ih =>
      rcases Outcome.bind_eq_ok.mp answered with ⟨outcome, first, later⟩
      rcases awaits.onFrame burst isLast first with ⟨early, still, -⟩ | ⟨rested, ended, -⟩
      · rcases ih still later with ⟨allEarly, awaitsLast⟩ | ⟨⟨other, listed, rested⟩, ended⟩
        · exact Or.inl ⟨List.forall_mem_cons.mpr ⟨early, allEarly⟩, awaitsLast⟩
        · exact Or.inr ⟨⟨other, List.mem_cons_of_mem timeMs listed, rested⟩, ended⟩
      · exact Or.inr ⟨⟨timeMs, List.mem_cons_self, rested⟩, ended.onFrames later⟩

/-- A scripted burst is applied once, whatever the times of the frames are: by
the first frame that reaches the deadline of its last change, and with the view
of that change.  Only a fault of the surface can keep a frame from being
drawn. -/
theorem burst_regenerates_once {settings : Settings} {view : Viewport} {surface : Option σ}
    {asked : κ} (launched : (launch settings view surface).run.run scheduler =
      .ok (.ok animator, asked)) (nonempty : events ≠ [])
    (defined : forall event, event ∈ events -> event.atMs.isNaN = false)
    (close : (ScriptedResizes.ofEvents events).events.IsChain fun event next =>
      next.atMs ≤ event.atMs + settings.host.resizeDebounceMs) :
    Exists fun last => (ScriptedResizes.ofEvents events).events.getLast? = some last ∧
      forall (times : List Float) (current : Animator σ) (rest : ScriptedResizes) (soFar : κ),
        animator.onFrames (ScriptedResizes.ofEvents events) asked times =
          .ok (current, rest, soFar) ->
        forall timeMs : Float,
          (Exists fun frame => Exists fun cause =>
            Frame.paint frame current.surface = .error cause ∧
              current.onFrame timeMs rest soFar = .error cause) ∨
          Exists fun outcome => Exists fun drawCalls => Exists fun regenerated =>
            current.onFrame timeMs rest soFar = .ok outcome ∧
            outcome.report = some ⟨timeMs, drawCalls, regenerated⟩ ∧
            (regenerated = true ↔ last.atMs + settings.host.resizeDebounceMs ≤ timeMs ∧
              forall earlier, earlier ∈ times ->
                ¬last.atMs + settings.host.resizeDebounceMs ≤ earlier) ∧
            (regenerated = true -> outcome.animator.field.viewport = last.viewport) := by
  rcases of_launch_eq_ok launched with ⟨accepted, ⟨field, drawable, -, laidOut, rfl⟩, -⟩
  have quiet := accepted.resizeDebounceMs
  have burst : IsBurst settings.host.resizeDebounceMs (ScriptedResizes.ofEvents events).events :=
    ⟨quiet, fun event listed => defined event (ScriptedResizes.mem_ofEvents.mp listed),
      ScriptedResizes.pairwise_ofEvents defined, close⟩
  have awaits : Awaits settings.host.resizeDebounceMs (ScriptedResizes.ofEvents events).events
      (initial settings field drawable) (ScriptedResizes.ofEvents events) := by
    refine ⟨rfl, ?_, Double.larger_zero quiet.finite.isDefined quiet.nonneg, [], rfl, rfl, nofun⟩
    exact (ParticleField.of_resize_eq_ok laidOut).1 ▸ accepted.field
  have listed : (ScriptedResizes.ofEvents events).events ≠ [] := by
    intro nothing
    rcases List.exists_mem_of_ne_nil events nonempty with ⟨event, member⟩
    rw [← ScriptedResizes.mem_ofEvents, nothing] at member
    cases member
  have isLast := List.getLast?_eq_some_getLast listed
  refine ⟨_, isLast, fun times current rest soFar answered timeMs => ?_⟩
  rcases awaits.onFrames burst isLast answered with
    ⟨allEarly, still⟩ | ⟨⟨other, member, due⟩, ended⟩
  · rcases onFrame_total still.accepted timeMs rest soFar with fault | ⟨outcome, next⟩
    · exact Or.inl fault
    · rcases still.onFrame burst isLast next with
        ⟨early, -, drawCalls, report⟩ | ⟨rested, -, ⟨drawCalls, report⟩, seen⟩
      · exact Or.inr ⟨outcome, drawCalls, false, next, report,
          iff_of_false Bool.false_ne_true fun both => early both.1, nofun⟩
      · exact Or.inr ⟨outcome, drawCalls, true, next, report,
          iff_of_true rfl ⟨rested, allEarly⟩, fun _ => seen⟩
  · rcases onFrame_total ended.accepted timeMs rest soFar with fault | ⟨outcome, next⟩
    · exact Or.inl fault
    · rcases (ended.onFrame next).2 with ⟨drawCalls, report⟩
      exact Or.inr ⟨outcome, drawCalls, false, next, report,
        iff_of_false Bool.false_ne_true fun both => both.2 other member due, nofun⟩

/-- Two changes within a quiet time, the later one listed first. -/
def shuffledDrag : List ResizeEvent :=
  [⟨640, 480, 1, 100⟩, ⟨800, 600, 1, 0⟩]

theorem ofEvents_shuffledDrag : (ScriptedResizes.ofEvents shuffledDrag).events =
    [⟨800, 600, 1, 0⟩, ⟨640, 480, 1, 100⟩] := by
  have behind : ¬Double.orderKey .last 100 ≤ Double.orderKey .last 0 := by decide +kernel
  simp [ScriptedResizes.ofEvents, ScriptedResizes.sorted, shuffledDrag, List.mergeSort,
    List.MergeSort.Internal.splitInTwo, behind]

/-- Under the settings that hold when nothing is set, the frame at the deadline
of the later change applies it. -/
theorem shuffledDrag_regenerates_once : Exists fun animator => Exists fun asked =>
    (launch {} .smallest (some ({} : RecordingSurface))).run.run ({} : FrameRequests) =
      .ok (.ok animator, asked) ∧
    Exists fun outcome => Exists fun drawCalls =>
      animator.onFrame 220 (ScriptedResizes.ofEvents shuffledDrag) asked = .ok outcome ∧
      outcome.report = some ⟨220, drawCalls, true⟩ ∧
      outcome.animator.field.viewport = .ofReadings 640 480 1 := by
  have accepted : Settings.Accepted {} := (Settings.validate_eq_ok {}).mp rfl
  rcases launch_of_accepted accepted .smallest ({} : RecordingSurface) with ⟨field, -, launches⟩
  have launched := launches FrameRequests {}
  have nonempty : shuffledDrag ≠ [] := List.cons_ne_nil _ _
  have defined : forall event, event ∈ shuffledDrag -> event.atMs.isNaN = false := by
    rw [shuffledDrag, List.forall_mem_cons, List.forall_mem_singleton]
    exact ⟨by decide +kernel, by decide +kernel⟩
  have close : (ScriptedResizes.ofEvents shuffledDrag).events.IsChain fun event next =>
      next.atMs ≤ event.atMs + ({} : Settings).host.resizeDebounceMs := by
    rw [ofEvents_shuffledDrag, List.isChain_pair]
    decide +kernel
  refine ⟨_, _, launched, ?_⟩
  rcases burst_regenerates_once launched nonempty defined close with ⟨last, isLast, frames⟩
  rw [ofEvents_shuffledDrag] at isLast
  cases isLast
  rcases frames [] _ _ _ rfl 220 with ⟨frame, cause, fault, -⟩ |
    ⟨outcome, drawCalls, regenerated, next, report, applies, seen⟩
  · rcases Frame.paint_ok RecordingSurface.faultless frame
      (initial {} field ({} : RecordingSurface)).surface with ⟨painted, drawn⟩
    cases fault.symm.trans drawn
  · have due : regenerated = true := applies.mpr ⟨by decide +kernel, nofun⟩
    subst due
    exact ⟨outcome, drawCalls, next, report, seen rfl⟩

end Animator

end Starfield
