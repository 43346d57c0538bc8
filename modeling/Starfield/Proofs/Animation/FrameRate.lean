import Starfield.Proofs.Animation.Stopping

namespace Starfield

/-!
# The frame rate

Frames are counted in windows of sixty.  A window ends with the frame that the
next one begins with, so its rate is that of sixty frames in the time between
its two ends.  The rate that is shown is that of the last full window that took
any time; a window that took none, or whose times are no numbers, leaves the
earlier rate as it is.  Only the times of the frames matter, not what happens
between them.
-/

/-- The full window that ends with frame `60 * place` took some time, and that
is the time between its ends. -/
structure Measures (times : List Float) (place : ℕ) (elapsed : Float) : Prop where
  begun : 1 ≤ place
  ends : Exists fun first => Exists fun last => times[60 * (place - 1)]? = some first ∧
    times[60 * place]? = some last ∧ elapsed = last - first
  advances : 0 < elapsed

/-- The rate of the last full window that took some time, if there is such a
window. -/
def IsLatestRate (times : List Float) : Option Float -> Prop
  | some rate => Exists fun place => Exists fun elapsed => Measures times place elapsed ∧
    rate = 60000 / elapsed ∧ forall later time, Measures times later time -> later ≤ place
  | none => forall place elapsed, ¬Measures times place elapsed

section Windows

variable {times : List Float} {timeMs : Float}

theorem Measures.elapsed_eq {place : ℕ} {elapsed other : Float}
    (measures : Measures times place elapsed) (others : Measures times place other) :
    elapsed = other := by
  rcases measures.ends with ⟨first, last, begins, finishes, rfl⟩
  rcases others.ends with ⟨otherFirst, otherLast, otherBegins, otherFinishes, rfl⟩
  cases begins.symm.trans otherBegins
  cases finishes.symm.trans otherFinishes
  rfl

/-- The times of the frames determine the rate. -/
theorem IsLatestRate.unique {rate? other? : Option Float} (latest : IsLatestRate times rate?)
    (others : IsLatestRate times other?) : rate? = other? := by
  cases rate? with
  | none =>
      cases other? with
      | none => rfl
      | some other =>
          rcases others with ⟨place, elapsed, measures, -⟩
          exact absurd measures (latest place elapsed)
  | some rate =>
      rcases latest with ⟨place, elapsed, measures, rfl, last⟩
      cases other? with
      | none => exact absurd measures (others place elapsed)
      | some other =>
          rcases others with ⟨otherPlace, otherElapsed, otherMeasures, rfl, otherLast⟩
          cases (otherLast _ _ measures).antisymm (last _ _ otherMeasures)
          rw [measures.elapsed_eq otherMeasures]

theorem getElem?_concat_eq_some {i : ℕ} {time : Float} : (times ++ [timeMs])[i]? = some time ↔
    times[i]? = some time ∨ (i = times.length ∧ timeMs = time) := by
  rcases lt_trichotomy i times.length with inside | rfl | beyond
  · rw [List.getElem?_append_left inside, or_iff_left fun both => inside.ne both.1]
  · rw [List.getElem?_concat_length, List.getElem?_eq_none le_rfl, Option.some_inj]
    exact ⟨fun same => Or.inr ⟨rfl, same⟩, fun either => (either.resolve_left nofun).2⟩
  · have outside : (times ++ [timeMs]).length ≤ i := List.length_append.trans_le beyond
    rw [List.getElem?_eq_none beyond.le, List.getElem?_eq_none outside]
    exact iff_of_false nofun fun either => beyond.ne' (either.resolve_left nofun).1

/-- One more frame may fill a window, and changes nothing about the windows
before. -/
theorem measures_concat_iff {place : ℕ} {elapsed : Float} :
    Measures (times ++ [timeMs]) place elapsed ↔ Measures times place elapsed ∨
      (1 ≤ place ∧ 60 * place = times.length ∧ 0 < elapsed ∧
        Exists fun first => times[60 * (place - 1)]? = some first ∧ elapsed = timeMs - first) := by
  constructor
  · rintro ⟨begun, ⟨first, last, begins, finishes, rfl⟩, advances⟩
    rw [getElem?_concat_eq_some] at begins finishes
    have earlier : times[60 * (place - 1)]? = some first := by
      refine begins.resolve_right fun atEnd => ?_
      rcases finishes with within | ⟨same, -⟩
      · have inside := (List.getElem?_eq_some_iff.mp within).1
        omega
      · omega
    rcases finishes with within | ⟨full, rfl⟩
    · exact Or.inl ⟨begun, ⟨first, last, earlier, within, rfl⟩, advances⟩
    · exact Or.inr ⟨begun, full, advances, first, earlier, rfl⟩
  · rintro (⟨begun, ⟨first, last, begins, finishes, rfl⟩, advances⟩ |
      ⟨begun, full, advances, first, begins, rfl⟩)
    · exact ⟨begun, ⟨first, last, getElem?_concat_eq_some.mpr (Or.inl begins),
        getElem?_concat_eq_some.mpr (Or.inl finishes), rfl⟩, advances⟩
    · exact ⟨begun, ⟨first, timeMs, getElem?_concat_eq_some.mpr (Or.inl begins),
        getElem?_concat_eq_some.mpr (Or.inr ⟨full, rfl⟩), rfl⟩, advances⟩

/-- The rate stays the latest where the new frame measures nothing. -/
theorem IsLatestRate.concat {rate? : Option Float} (latest : IsLatestRate times rate?)
    (idle : forall place first, 1 ≤ place -> 60 * place = times.length ->
      times[60 * (place - 1)]? = some first -> ¬0 < timeMs - first) :
    IsLatestRate (times ++ [timeMs]) rate? := by
  have same (place : ℕ) (elapsed : Float) :
      Measures (times ++ [timeMs]) place elapsed ↔ Measures times place elapsed := by
    rw [measures_concat_iff]
    refine or_iff_left ?_
    rintro ⟨begun, full, advances, first, begins, rfl⟩
    exact idle place first begun full begins advances
  cases rate? with
  | none => exact fun place elapsed measures => latest place elapsed ((same _ _).mp measures)
  | some rate =>
      rcases latest with ⟨place, elapsed, measures, rate_eq, last⟩
      exact ⟨place, elapsed, (same _ _).mpr measures, rate_eq,
        fun later time others => last later time ((same _ _).mp others)⟩

/-- A new frame that measures a window gives the latest rate. -/
theorem isLatestRate_concat {place : ℕ} {first : Float} (begun : 1 ≤ place)
    (full : 60 * place = times.length) (begins : times[60 * (place - 1)]? = some first)
    (advances : 0 < timeMs - first) :
    IsLatestRate (times ++ [timeMs]) (some (60000 / (timeMs - first))) := by
  have measures : Measures (times ++ [timeMs]) place (timeMs - first) :=
    measures_concat_iff.mpr (Or.inr ⟨begun, full, advances, first, begins, rfl⟩)
  refine ⟨place, timeMs - first, measures, rfl, fun later time others => ?_⟩
  rcases others.ends with ⟨-, last, -, finishes, -⟩
  have inside := (List.getElem?_eq_some_iff.mp finishes).1
  rw [List.length_append, List.length_singleton] at inside
  omega

end Windows

/-! ## The probe -/

namespace FpsProbe

/-- The probe holds the time of the last frame that a window began with, and the
number of frames since then. -/
structure Follows (probe : FpsProbe) (times : List Float) : Prop where
  windowStart : probe.windowStart = times[60 * ((times.length - 1) / 60)]?
  frames : probe.frames = (times.length - 1) % 60

theorem follows_nil : Follows {} [] :=
  ⟨rfl, rfl⟩

theorem rate?_window (elapsedMs : Float) :
    rate? 60 elapsedMs = if 0 < elapsedMs then some (60000 / elapsedMs) else none := by
  have thousandfold : (UInt64.ofNat 60).toFloat * 1000 = (60000 : Float) := by decide +kernel
  unfold rate?
  rw [thousandfold]

variable {probe : FpsProbe} {times : List Float}

/-- What a frame does: it begins the first window, it is one more of a window,
or it fills one. -/
theorem record_cases (timeMs : Float) (probe : FpsProbe) :
    (probe.windowStart = none ∧
      probe.record timeMs = (none, { probe with windowStart := some timeMs })) ∨
    (Exists fun start => probe.windowStart = some start ∧ probe.frames + 1 < 60 ∧
      probe.record timeMs = (none, { probe with frames := probe.frames + 1 })) ∨
    Exists fun start => probe.windowStart = some start ∧ 60 ≤ probe.frames + 1 ∧
      probe.record timeMs = (rate? (probe.frames + 1) (timeMs - start),
        { windowStart := some timeMs, frames := 0 }) := by
  rcases probe with ⟨_ | start, frames⟩
  · exact Or.inl ⟨rfl, rfl⟩
  · by_cases filling : frames + 1 < 60
    · exact Or.inr (Or.inl ⟨start, rfl, filling, if_pos filling⟩)
    · exact Or.inr (Or.inr ⟨start, rfl, not_lt.mp filling, if_neg filling⟩)

/-- A frame moves the probe on, and the rate that was the latest stays so or is
replaced by the new one. -/
theorem Follows.record (follows : probe.Follows times) {shown : Option Float}
    (latest : IsLatestRate times shown) (timeMs : Float) :
    (probe.record timeMs).2.Follows (times ++ [timeMs]) ∧
      IsLatestRate (times ++ [timeMs]) ((probe.record timeMs).1 <|> shown) := by
  have grown : (times ++ [timeMs]).length - 1 = times.length := by
    rw [List.length_append, List.length_singleton, Nat.add_sub_cancel]
  have begun := follows.windowStart
  have counted := follows.frames
  rcases record_cases timeMs probe with ⟨unstarted, recorded⟩ |
    ⟨start, started, filling, recorded⟩ | ⟨start, started, filled, recorded⟩ <;> rw [recorded]
  · -- There was no frame before.
    rw [unstarted] at begun
    have outside := List.getElem?_eq_none_iff.mp begun.symm
    cases List.eq_nil_of_length_eq_zero (show times.length = 0 by omega)
    refine ⟨⟨?_, counted⟩, latest.concat fun place first positive full => ?_⟩
    · rw [grown, List.length_nil, Nat.zero_div]
      rfl
    · rw [List.length_nil] at full
      omega
  · rw [started] at begun
    have inside := (List.getElem?_eq_some_iff.mp begun.symm).1
    refine ⟨⟨?_, ?_⟩, latest.concat fun place first positive full => by omega⟩
    · rw [grown, show times.length / 60 = (times.length - 1) / 60 by omega]
      exact started.trans (getElem?_concat_eq_some.mpr (Or.inl begun.symm)).symm
    · change probe.frames + 1 = _
      rw [grown]
      omega
  · rw [started] at begun
    have inside := (List.getElem?_eq_some_iff.mp begun.symm).1
    have sixty : probe.frames + 1 = 60 := by omega
    have full : 60 * ((times.length - 1) / 60 + 1) = times.length := by omega
    refine ⟨⟨?_, ?_⟩, ?_⟩
    · rw [grown, show 60 * (times.length / 60) = times.length by omega]
      exact List.getElem?_concat_length.symm
    · change 0 = _
      rw [grown]
      omega
    · rw [sixty, rate?_window]
      by_cases advances : 0 < timeMs - start
      · rw [if_pos advances]
        exact isLatestRate_concat (Nat.succ_pos _) full begun.symm advances
      · rw [if_neg advances]
        refine latest.concat fun place first positive atEnd begins => ?_
        cases show place = (times.length - 1) / 60 + 1 by omega
        cases begun.trans begins
        exact advances

end FpsProbe

/-! ## Runs -/

namespace HostCall

/-- The times of the frames that the host calls for before it stops the
animator. -/
def frameTimes : List HostCall -> List Float
  | [] => []
  | .resize _ :: calls => frameTimes calls
  | @frame timeMs _ _ _ :: calls => timeMs :: frameTimes calls
  | .stop :: _ => []

end HostCall

namespace HostAnswer

/-- The times of the frames that were drawn. -/
def frameTimes (answers : List HostAnswer) : List Float :=
  answers.filterMap fun answer => answer.report.map (·.timestampMs)

theorem frameTimes_cons (answer : HostAnswer) (answers : List HostAnswer) :
    frameTimes (answer :: answers) = frameTimes [answer] ++ frameTimes answers :=
  List.filterMap_append (l := [answer])

theorem frameTimes_replicate (count : ℕ) : frameTimes (List.replicate count {}) = [] := by
  rw [frameTimes, List.filterMap_replicate_of_none rfl]

end HostAnswer

namespace Animator

variable {σ κ : Type}

/-- The statistics and the probe are right for the frames that were drawn so
far. -/
structure IsRated (animator : Animator σ) (times : List Float) : Prop where
  probe : animator.probe.Follows times
  latest : IsLatestRate times animator.stats.fps

variable {animator : Animator σ} {times : List Float}

theorem isRated_initial (settings : Settings) (field : ParticleField) (surface : σ) :
    (initial settings field surface).IsRated [] where
  probe := FpsProbe.follows_nil
  latest place elapsed measures := by
    rcases measures.ends with ⟨first, last, begins, -⟩
    cases begins

namespace IsRated

theorem onResizes (rated : animator.IsRated times) (events : List ResizeEvent) :
    (events.foldl onResize animator).IsRated times := by
  induction events generalizing animator with
  | nil => exact rated
  | cons event events ih => exact ih ⟨rated.probe, rated.latest⟩

theorem settle (rated : animator.IsRated times) {timeMs : Float} {applied : Option ResizeEvent}
    {settled : Animator σ} (settles : animator.settle timeMs = .ok (applied, settled)) :
    settled.IsRated times := by
  rcases of_settle_eq_ok settles with ⟨event, field, -, -, -, -, rfl⟩ | ⟨-, -, rfl⟩
  · exact ⟨rated.probe, rated.latest⟩
  · exact rated

theorem draw [Surface σ] (rated : animator.IsRated times) {timeMs : Float} {drawCalls : ℕ}
    {drawn : Animator σ} (draws : animator.draw timeMs = .ok (drawCalls, drawn)) :
    drawn.IsRated times := by
  rcases of_draw_eq_ok draws with ⟨frame, field, surface, -, -, -, rfl⟩
  exact ⟨rated.probe, rated.latest⟩

theorem count (rated : animator.IsRated times) (timeMs : Float) (drawCalls : ℕ) :
    (animator.count timeMs drawCalls).2.IsRated (times ++ [timeMs]) := by
  rcases rated.probe.record rated.latest timeMs with ⟨probe, latest⟩
  exact ⟨probe, latest⟩

/-- A call changes the rate only by the frame that it draws. -/
theorem perform [Surface σ] [Scheduler κ] (rated : animator.IsRated times) {scheduler asked : κ}
    {call : HostCall} {answer : HostAnswer} {next : Animator σ}
    (performed : animator.perform scheduler call = .ok (answer, next, asked)) :
    next.IsRated (times ++ HostAnswer.frameTimes [answer]) := by
  have undrawn : times ++ HostAnswer.frameTimes [{}] = times := List.append_nil times
  cases call with
  | resize event =>
      cases performed
      rw [undrawn]
      exact ⟨rated.probe, rated.latest⟩
  | frame timeMs source =>
      rcases Outcome.bind_eq_ok.mp performed with ⟨outcome, answered, made⟩
      cases made
      rcases of_onFrame_eq_ok answered with ⟨-, rfl⟩ |
        ⟨-, applied, settled, drawCalls, drawn, settles, draws, rfl⟩
      · exact undrawn.symm ▸ rated
      · exact (((rated.onResizes _).settle settles).draw draws).count timeMs drawCalls
  | stop =>
      cases performed
      rw [undrawn]
      exact ⟨rated.probe, rated.latest⟩

theorem performAll [Surface σ] [Scheduler κ] (rated : animator.IsRated times)
    {scheduler asked : κ} {calls : List HostCall} {answers : List HostAnswer} {last : Animator σ}
    (performed : animator.performAll scheduler calls = .ok (answers, last, asked)) :
    last.IsRated (times ++ HostAnswer.frameTimes answers) := by
  induction calls generalizing animator scheduler times answers with
  | nil =>
      cases performed
      rwa [show HostAnswer.frameTimes [] = [] from rfl, List.append_nil]
  | cons call calls ih =>
      rcases performAll_cons_eq_ok.mp performed with
        ⟨answer, next, requested, others, first, later, rfl⟩
      rw [HostAnswer.frameTimes_cons, ← List.append_assoc]
      exact ih (rated.perform first) later

end IsRated

/-- An animator that runs draws a frame whenever it is called for one, until it
is stopped. -/
theorem frameTimes_performAll [Surface σ] [Scheduler κ] (running : animator.running = true)
    {scheduler asked : κ} {calls : List HostCall} {answers : List HostAnswer} {last : Animator σ}
    (performed : animator.performAll scheduler calls = .ok (answers, last, asked)) :
    HostAnswer.frameTimes answers = HostCall.frameTimes calls := by
  induction calls generalizing animator scheduler answers with
  | nil =>
      cases performed
      rfl
  | cons call calls ih =>
      rcases performAll_cons_eq_ok.mp performed with
        ⟨answer, next, requested, others, first, later, rfl⟩
      rw [HostAnswer.frameTimes_cons]
      cases call with
      | resize event =>
          cases first
          have stillRunning : (animator.onResize event).running = true := running
          exact ih stillRunning later
      | frame timeMs source =>
          rcases Outcome.bind_eq_ok.mp first with ⟨outcome, answered, shown⟩
          cases shown
          rcases of_onFrame_eq_ok answered with ⟨halted, -⟩ |
            ⟨-, applied, settled, drawCalls, drawn, settles, draws, rfl⟩
          · cases running.symm.trans halted
          · have stillRunning : (drawn.count timeMs drawCalls).2.running = true :=
              ((draw_keeps draws).2.1.trans (takenUp_keeps settles).2).trans running
            exact congrArg (timeMs :: ·) (ih stillRunning later)
      | stop =>
          cases first
          have atRest : animator.stop.RestsSince animator.stop 0 := .refl rfl
          rcases atRest.performAll scheduler calls with ⟨rested, ignored, -⟩
          cases later.symm.trans ignored
          exact HostAnswer.frameTimes_replicate _

/-- After every run that a launch begins, the rate that is shown is that of the
last full window that took any time, and there is none without such a window.
The times of the frames that were drawn determine it; changes of the view in
between do not matter. -/
theorem launch_shows_latest_rate [Surface σ] [Scheduler κ] {settings : Settings} {view : Viewport}
    {surface : Option σ} {scheduler first asked : κ} {animator last : Animator σ}
    {calls : List HostCall} {answers : List HostAnswer}
    (launched : (launch settings view surface).run.run scheduler = .ok (.ok animator, first))
    (performed : animator.performAll first calls = .ok (answers, last, asked))
    (rate? : Option Float) :
    last.stats.fps = rate? ↔ IsLatestRate (HostAnswer.frameTimes answers) rate? := by
  rcases of_launch_eq_ok launched with ⟨-, ⟨field, drawable, -, -, rfl⟩, -⟩
  have rated := (isRated_initial settings field drawable).performAll performed
  constructor
  · rintro rfl
    exact rated.latest
  · exact rated.latest.unique

/-- A window of ten milliseconds for each frame, a change of the view, and a
window whose end is no number. -/
theorem launch_shows_latest_rate_steady : Exists fun animator => Exists fun first =>
    Exists fun answers => Exists fun last => Exists fun asked =>
      (launch {} .smallest (some ({} : RecordingSurface))).run.run ({} : FrameRequests) =
        .ok (.ok animator, first) ∧
      animator.performAll first
        ((List.range 61).map (fun i => .frame (10 * Float.ofNat i) ()) ++
          .resize ⟨640, 480, 1, 600⟩ :: List.replicate 60 (.frame Binary.undefined ())) =
        .ok (answers, last, asked) ∧
      last.stats.fps = some 100 := by
  have accepted : Settings.Accepted {} := (Settings.validate_eq_ok {}).mp rfl
  rcases launch_of_accepted accepted .smallest ({} : RecordingSurface) with
    ⟨field, laidOut, launches⟩
  have launched := launches FrameRequests {}
  have kept : (initial {} field ({} : RecordingSurface)).field.settings.Accepted :=
    (ParticleField.of_resize_eq_ok laidOut).1 ▸ accepted.field
  rcases performAll_ok RecordingSurface.faultless kept (Scheduler.request ({} : FrameRequests))
    ((List.range 61).map (fun i => .frame (10 * Float.ofNat i) ()) ++
      .resize ⟨640, 480, 1, 600⟩ :: List.replicate 60 (.frame Binary.undefined ())) with
    ⟨answers, last, asked, performed⟩
  refine ⟨_, _, answers, last, asked, launched, performed, ?_⟩
  rw [launch_shows_latest_rate launched performed, frameTimes_performAll rfl performed]
  generalize called : HostCall.frameTimes _ = times
  have readings : times.length = 121 ∧ times[0]? = some 0 ∧ times[60]? = some 600 ∧
      times[120]? = some Binary.undefined := by
    rw [← called]
    decide +kernel
  rcases readings with ⟨count, begins, middle, finishes⟩
  refine ⟨1, 600, ⟨le_rfl, ⟨0, 600, begins, middle, by decide +kernel⟩, by decide +kernel⟩,
    by decide +kernel, fun later time measures => ?_⟩
  rcases measures with ⟨-, ⟨start, stop, laterBegins, laterFinishes, rfl⟩, advances⟩
  have inside := (List.getElem?_eq_some_iff.mp laterFinishes).1
  by_contra beyond
  -- The second window is left, and it has no time.
  cases show later = 2 by omega
  cases middle.symm.trans laterBegins
  cases finishes.symm.trans laterFinishes
  exact absurd advances (by decide +kernel)

end Animator

end Starfield
