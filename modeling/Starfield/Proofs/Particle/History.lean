import Starfield.Particle.Field
import Starfield.Proofs.Particle.Generation
import Starfield.Proofs.Particle.Motion

namespace Starfield

/-!
# Histories of a field

A history is a list of layouts and ticks.  With accepted settings none of them
can fail, whatever the views and the times are, so every history leads to a
field.  What a layout and a tick do to a field is stated here once.
-/

/-- What a host can ask of a field. -/
inductive FieldCall
  | resize (view : Viewport)
  | tick (timeMs : Float)

namespace ParticleField

/-- A field that was configured and not laid out yet. -/
def blank (settings : FieldSettings) : ParticleField where
  settings
  generator := .ofSeed settings.seed
  viewport := .smallest
  population := {}
  generation := 0

/-- The field after a call.  The frame of a tick is not kept. -/
def call (field : ParticleField) : FieldCall -> Except Fault ParticleField
  | .resize view => field.resize view
  | .tick timeMs => do return (<- field.tick timeMs).2

/-- The field after some calls. -/
def run (field : ParticleField) (calls : List FieldCall) : Except Fault ParticleField :=
  calls.foldlM call field

theorem run_cons (field : ParticleField) (call : FieldCall) (calls : List FieldCall) :
    field.run (call :: calls) = field.call call >>= fun next => next.run calls :=
  List.foldlM_cons

theorem run_append (field : ParticleField) (earlier later : List FieldCall) :
    field.run (earlier ++ later) = field.run earlier >>= fun middle => middle.run later :=
  List.foldlM_append

theorem run_concat {field middle : ParticleField} {earlier : List FieldCall}
    (reached : field.run earlier = .ok middle) (last : FieldCall) :
    field.run (earlier ++ [last]) = middle.call last := by
  rw [run_append, reached]
  change (middle.call last >>= Pure.pure) = middle.call last
  exact bind_pure _

/-- Settings that are accepted make a field without particles. -/
theorem configure_eq_ok {settings : FieldSettings} {field : ParticleField} :
    configure settings = .ok field ↔ settings.Accepted ∧ field = blank settings := by
  unfold configure
  rw [Outcome.bind_eq_ok]
  simp only [← FieldSettings.validate_eq_ok]
  constructor
  · rintro ⟨⟨⟩, passed, made⟩
    cases made
    exact ⟨passed, rfl⟩
  · rintro ⟨passed, rfl⟩
    exact ⟨(), passed, rfl⟩

variable {field : ParticleField}

/-- A layout replaces the view and the particles and moves the generator. -/
theorem resize_spec (accepted : field.settings.Accepted) (view : Viewport) :
    Exists fun population => Exists fun generator =>
      (Population.sample field.settings view).run field.generator = .ok (population, generator) ∧
      population.Drawn field.settings view ∧
      field.resize view =
        .ok ⟨field.settings, generator, view, population, field.generation + 1⟩ := by
  rcases Population.yields_sample accepted view field.generator with
    ⟨population, generator, drawn, shaped⟩
  refine ⟨population, generator, drawn, shaped, ?_⟩
  unfold resize
  rw [show (Population.sample field.settings view).run field.generator =
    .ok (population, generator) from drawn]
  rfl

/-- What a layout does, whether the settings were checked or not. -/
theorem of_resize_eq_ok {view : Viewport} {next : ParticleField}
    (laidOut : field.resize view = .ok next) : next.settings = field.settings ∧
      next.viewport = view ∧ next.generation = field.generation + 1 := by
  unfold resize at laidOut
  rcases Outcome.bind_eq_ok.mp laidOut with ⟨drawn, -, made⟩
  cases made
  exact ⟨rfl, rfl, rfl⟩

/-- The sides of the view as a point. -/
def extent (field : ParticleField) : Point Float32 :=
  ⟨field.viewport.width, field.viewport.height⟩

/-- The steps that a tick would move the particles by. -/
def stepsTo (field : ParticleField) (timeMs : Float) : Except Fault Float32 :=
  Motion.frameSteps (field.population.elapsed timeMs) field.settings.motion.maxFrameMs
    field.settings.motion.speedScale

/-- The field with its particles moved and the time noted. -/
def moved (field : ParticleField) (steps : Float32) (timeMs : Float) : ParticleField :=
  { field with population :=
      { field.population.advance steps field.extent with lastTick := some timeMs } }

theorem advance_spec (accepted : field.settings.Accepted) (timeMs : Float) :
    Exists fun steps => field.stepsTo timeMs = .ok steps ∧
      field.advance timeMs = .ok (field.moved steps timeMs) := by
  rcases Motion.frameSteps_spec accepted.maxFrameMs (field.population.elapsed timeMs)
    field.settings.motion.speedScale with ⟨time, -, -, counted⟩
  refine ⟨_, counted, ?_⟩
  unfold advance Population.tick
  rw [counted]
  rfl

theorem starAlpha_ok (accepted : field.settings.Accepted) (star : Star Float32) (timeMs : Float) :
    Exists fun alpha => field.starAlpha star timeMs = .ok alpha := by
  have bounds := accepted.alphaClamp
  have ordered : field.settings.alphaClamp.min ≤ field.settings.alphaClamp.max := by
    rw [le_iff]
    exact ⟨bounds.min_finite.isDefined, bounds.max_finite.isDefined, bounds.le⟩
  unfold starAlpha Range.clamp clampOrdered
  rw [if_pos ordered]
  exact ⟨_, rfl⟩

theorem describe_ok (accepted : field.settings.Accepted) (timeMs : Float) :
    Exists fun frame => field.describe timeMs = .ok frame := by
  have discs : forall star, star ∈ field.population.stars ->
      Exists fun disc => field.starDisc timeMs star = .ok disc := by
    intro star _
    rcases starAlpha_ok accepted star timeMs with ⟨alpha, shown⟩
    unfold starDisc
    rw [shown]
    exact ⟨_, rfl⟩
  rcases Outcome.mapM_ok field.population.stars discs with ⟨stars, shown⟩
  unfold describe
  rw [shown]
  exact ⟨_, rfl⟩

/-- A tick moves the particles by the steps of its time and does nothing else
to the field. -/
theorem tick_spec (accepted : field.settings.Accepted) (timeMs : Float) :
    Exists fun steps => Exists fun frame => field.stepsTo timeMs = .ok steps ∧
      (field.moved steps timeMs).describe timeMs = .ok frame ∧
      field.tick timeMs = .ok (frame, field.moved steps timeMs) := by
  rcases advance_spec accepted timeMs with ⟨steps, counted, advanced⟩
  have kept : (field.moved steps timeMs).settings.Accepted := accepted
  rcases describe_ok kept timeMs with ⟨frame, described⟩
  refine ⟨steps, frame, counted, described, ?_⟩
  unfold tick
  rw [advanced, Outcome.ok_bind, described]
  rfl

/-- What a tick does, whether the settings were checked or not. -/
theorem of_tick_eq_ok {timeMs : Float} {frame : Frame} {next : ParticleField}
    (ticked : field.tick timeMs = .ok (frame, next)) : Exists fun steps =>
      next = field.moved steps timeMs ∧ next.describe timeMs = .ok frame := by
  unfold tick at ticked
  rcases Outcome.bind_eq_ok.mp ticked with ⟨moved, advanced, rest⟩
  rcases Outcome.bind_eq_ok.mp rest with ⟨described, shown, made⟩
  cases made
  unfold advance Population.tick at advanced
  rcases Outcome.bind_eq_ok.mp advanced with ⟨population, stepped, kept⟩
  rcases Outcome.bind_eq_ok.mp stepped with ⟨steps, -, done⟩
  cases done
  cases kept
  exact ⟨steps, rfl, shown⟩

theorem call_tick {timeMs : Float} {frame : Frame} {next : ParticleField}
    (ticked : field.tick timeMs = .ok (frame, next)) : field.call (.tick timeMs) = .ok next :=
  Outcome.bind_eq_ok.mpr ⟨(frame, next), ticked, rfl⟩

/-- A call has a result and leaves the settings alone. -/
theorem call_ok (accepted : field.settings.Accepted) (call : FieldCall) :
    Exists fun next => field.call call = .ok next ∧ next.settings = field.settings := by
  cases call with
  | resize view =>
      rcases resize_spec accepted view with ⟨population, generator, -, -, laidOut⟩
      exact ⟨_, laidOut, rfl⟩
  | tick timeMs =>
      rcases tick_spec accepted timeMs with ⟨steps, frame, -, -, ticked⟩
      exact ⟨field.moved steps timeMs, call_tick ticked, rfl⟩

/-- Every history of an accepted field leads to a field. -/
theorem run_ok (accepted : field.settings.Accepted) (calls : List FieldCall) :
    Exists fun last => field.run calls = .ok last ∧ last.settings = field.settings := by
  induction calls generalizing field with
  | nil => exact ⟨field, rfl, rfl⟩
  | cons call calls ih =>
      rcases call_ok accepted call with ⟨next, called, kept⟩
      rcases ih (kept ▸ accepted) with ⟨last, reached, keptAlways⟩
      refine ⟨last, ?_, keptAlways.trans kept⟩
      rw [run_cons, called]
      exact reached

/-- Every tick of a history since its last layout is a good one for the field
that it finds. -/
def SinceLayout (start : ParticleField) (calls : List FieldCall)
    (good : ParticleField -> Float -> Prop) : Prop :=
  forall earlier timeMs later, calls = earlier ++ .tick timeMs :: later ->
    (forall view, .resize view ∉ later) ->
    Exists fun before => start.run earlier = .ok before ∧ good before timeMs

section SinceLayout

variable {good : ParticleField -> Float -> Prop}

theorem sinceLayout_nil (start : ParticleField) : start.SinceLayout [] good := by
  intro earlier timeMs later split
  simp at split

/-- After a layout there is no tick to look at. -/
theorem sinceLayout_concat_resize (start : ParticleField) (calls : List FieldCall)
    (view : Viewport) : start.SinceLayout (calls ++ [.resize view]) good := by
  intro earlier timeMs later split quiet
  rcases List.eq_nil_or_concat' later with rfl | ⟨others, last, rfl⟩
  · have same := (List.append_inj' split rfl).2
    cases same
  · rw [← List.cons_append, ← List.append_assoc] at split
    have same := (List.append_inj' split rfl).2
    cases same
    exact absurd (by simp) (quiet view)

theorem sinceLayout_concat_tick (start : ParticleField) (calls : List FieldCall)
    (timeMs : Float) : start.SinceLayout (calls ++ [.tick timeMs]) good ↔
      start.SinceLayout calls good ∧
        Exists fun before => start.run calls = .ok before ∧ good before timeMs := by
  constructor
  · intro since
    refine ⟨?_, since calls timeMs [] rfl nofun⟩
    intro earlier time later split quiet
    refine since earlier time (later ++ [.tick timeMs]) (by simp [split]) ?_
    intro view member
    rcases List.mem_append.mp member with inLater | last
    · exact quiet view inLater
    · cases List.mem_singleton.mp last
  · rintro ⟨since, last⟩ earlier time later split quiet
    rcases List.eq_nil_or_concat' later with rfl | ⟨others, final, rfl⟩
    · have both := List.append_inj' split rfl
      cases both.2
      exact both.1 ▸ last
    · rw [← List.cons_append, ← List.append_assoc] at split
      have both := List.append_inj' split rfl
      refine since earlier time others both.1 fun view member => quiet view ?_
      exact List.mem_append_left _ member

end SinceLayout

/-- What holds of a field without particles, of every layout and behind every
tick that it held before holds after every history. -/
theorem run_induction {settings : FieldSettings} {empty : ParticleField}
    (configured : configure settings = .ok empty)
    {motive : List FieldCall -> ParticleField -> Prop} (start : motive [] empty)
    (resize : forall calls view population generator generation,
      population.Drawn settings view ->
      motive (calls ++ [.resize view]) ⟨settings, generator, view, population, generation⟩)
    (tick : forall calls (field : ParticleField) timeMs steps, empty.run calls = .ok field ->
      field.settings = settings -> field.stepsTo timeMs = .ok steps -> motive calls field ->
      motive (calls ++ [.tick timeMs]) (field.moved steps timeMs))
    (calls : List FieldCall) : Exists fun field =>
      empty.run calls = .ok field ∧ field.settings = settings ∧ motive calls field := by
  rcases configure_eq_ok.mp configured with ⟨accepted, rfl⟩
  induction calls using List.reverseRecOn with
  | nil => exact ⟨_, rfl, rfl, start⟩
  | append_singleton calls call ih =>
      rcases ih with ⟨field, reached, rfl, holds⟩
      rw [run_concat reached]
      cases call with
      | resize view =>
          rcases resize_spec accepted view with ⟨population, generator, -, drawn, laidOut⟩
          exact ⟨_, laidOut, rfl, resize calls view population generator _ drawn⟩
      | tick timeMs =>
          rcases tick_spec accepted timeMs with ⟨steps, frame, counted, -, ticked⟩
          exact ⟨_, call_tick ticked, rfl, tick calls field timeMs steps reached rfl counted holds⟩

/-- What a layout brings and only a tick that is not good takes away, for good,
holds exactly if every tick since the last layout was a good one. -/
theorem run_sinceLayout_iff {settings : FieldSettings} {empty : ParticleField}
    (configured : configure settings = .ok empty) {keeps holds : ParticleField -> Prop}
    {good : ParticleField -> Float -> Prop} (start : keeps empty ∧ holds empty)
    (resize : forall view population generator generation, population.Drawn settings view ->
      keeps ⟨settings, generator, view, population, generation⟩ ∧
        holds ⟨settings, generator, view, population, generation⟩)
    (tick : forall field timeMs steps, field.stepsTo timeMs = .ok steps -> keeps field ->
      keeps (field.moved steps timeMs) ∧
        (holds (field.moved steps timeMs) ↔ good field timeMs) ∧ (good field timeMs -> holds field))
    (calls : List FieldCall) : Exists fun field => empty.run calls = .ok field ∧
      field.settings = settings ∧ keeps field ∧ (holds field ↔ empty.SinceLayout calls good) := by
  refine run_induction configured (motive := fun calls field =>
    keeps field ∧ (holds field ↔ empty.SinceLayout calls good)) ?_ ?_ ?_ calls
  · exact ⟨start.1, iff_of_true start.2 (sinceLayout_nil empty)⟩
  · -- A layout forgets every earlier tick.
    intro calls view population generator generation drawn
    have fresh := resize view population generator generation drawn
    exact ⟨fresh.1, iff_of_true fresh.2 (sinceLayout_concat_resize empty calls view)⟩
  · rintro calls field timeMs steps reached - counted ⟨kept, held⟩
    rcases tick field timeMs steps counted kept with ⟨keptToo, lasts, before⟩
    refine ⟨keptToo, ?_⟩
    rw [lasts, sinceLayout_concat_tick, ← held]
    constructor
    · exact fun goodTick => ⟨before goodTick, field, reached, goodTick⟩
    · rintro ⟨-, other, same, goodTick⟩
      cases reached.symm.trans same
      exact goodTick

end ParticleField

end Starfield
