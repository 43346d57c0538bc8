import Starfield.Proofs.Particle.History

namespace Starfield

open Sampler (Yields)

/-!
# Requests that cannot fault

Besides layouts and ticks a host can have a field described without moving it,
and can ask for the opacity of any star, whether the field has that star or
not.  Four steps behind these requests fault on operands that they do not
check themselves: two clamps, the choice of a color and the choice of a number
of blobs.  Validation has all four in order, and since no request changes the
settings they stay so.  What a request is about (the view, the time, the star)
does not matter; times need not be numbers.
-/

/-- What can be asked of a field. -/
inductive FieldRequest
  | resize (view : Viewport)
  | tick (timeMs : Float)
  | describe (timeMs : Float)
  | starAlpha (star : Star Float32) (timeMs : Float)

/-- What a field answers. -/
inductive FieldAnswer
  | laidOut
  | frame (frame : Frame)
  | alpha (alpha : Float32)

/-- The operands of every step that can fault.  An undefined bound is not in
order with any other. -/
structure FieldSettings.OperandsInOrder (settings : FieldSettings) : Prop where
  opacity : settings.alphaClamp.min ≤ settings.alphaClamp.max
  time : (0 : Float) ≤ settings.motion.maxFrameMs
  color : Yields (fun index => index < settings.palette.stars.length)
    (Sampler.below settings.palette.stars.length)
  blobs : settings.nebula.blobs.min ≤ settings.nebula.blobs.max ∧
    Yields (fun count => settings.nebula.blobs.min.toNat ≤ count ∧
      count ≤ settings.nebula.blobs.max.toNat) (Sampler.count settings.nebula.blobs)

theorem FieldSettings.Accepted.operandsInOrder {settings : FieldSettings}
    (accepted : settings.Accepted) : settings.OperandsInOrder where
  opacity := by
    have bounds := accepted.alphaClamp
    rw [le_iff]
    exact ⟨bounds.min_finite.isDefined, bounds.max_finite.isDefined, bounds.le⟩
  time := by
    rw [le_iff, exact_double_zero]
    exact ⟨rfl, accepted.maxFrameMs.finite.isDefined, accepted.maxFrameMs.nonneg⟩
  color := Sampler.yields_below (List.length_pos_iff.mpr accepted.palette.nonempty)
  blobs := ⟨accepted.nebula.blobs, Sampler.yields_count accepted.nebula.blobs⟩

namespace ParticleField

/-- Answer a request. -/
def ask (field : ParticleField) : FieldRequest -> Except Fault (FieldAnswer × ParticleField)
  | .resize view => do return (.laidOut, <- field.resize view)
  | .tick timeMs => do
    let (frame, moved) <- field.tick timeMs
    return (.frame frame, moved)
  | .describe timeMs => do return (.frame (<- field.describe timeMs), field)
  | .starAlpha star timeMs => do return (.alpha (<- field.starAlpha star timeMs), field)

/-- Answer requests in order. -/
def askAll (field : ParticleField) :
    List FieldRequest -> Except Fault (List FieldAnswer × ParticleField)
  | [] => .ok ([], field)
  | request :: requests => do
    let (answer, field) <- field.ask request
    let (answers, last) <- field.askAll requests
    return (answer :: answers, last)

variable {field : ParticleField}

/-- A request is answered, and the settings are afterwards what they were. -/
theorem ask_ok (accepted : field.settings.Accepted) (request : FieldRequest) :
    Exists fun answer => Exists fun next =>
      field.ask request = .ok (answer, next) ∧ next.settings = field.settings := by
  cases request with
  | resize view =>
      rcases resize_spec accepted view with ⟨population, generator, -, -, laidOut⟩
      exact ⟨_, _, Outcome.bind_eq_ok.mpr ⟨_, laidOut, rfl⟩, rfl⟩
  | tick timeMs =>
      rcases tick_spec accepted timeMs with ⟨steps, frame, -, -, ticked⟩
      exact ⟨_, _, Outcome.bind_eq_ok.mpr ⟨_, ticked, rfl⟩, rfl⟩
  | describe timeMs =>
      rcases describe_ok accepted timeMs with ⟨frame, described⟩
      exact ⟨_, _, Outcome.bind_eq_ok.mpr ⟨_, described, rfl⟩, rfl⟩
  | starAlpha star timeMs =>
      rcases starAlpha_ok accepted star timeMs with ⟨alpha, shown⟩
      exact ⟨_, _, Outcome.bind_eq_ok.mpr ⟨_, shown, rfl⟩, rfl⟩

theorem askAll_ok (accepted : field.settings.Accepted) (requests : List FieldRequest) :
    Exists fun answers => Exists fun last =>
      field.askAll requests = .ok (answers, last) ∧ answers.length = requests.length ∧
        last.settings = field.settings := by
  induction requests generalizing field with
  | nil => exact ⟨[], field, rfl, rfl, rfl⟩
  | cons request requests ih =>
      rcases ask_ok accepted request with ⟨answer, next, asked, kept⟩
      rcases ih (kept ▸ accepted) with ⟨answers, last, rest, counted, keptAlways⟩
      refine ⟨answer :: answers, last, ?_, congrArg (· + 1) counted, keptAlways.trans kept⟩
      exact Outcome.bind_eq_ok.mpr ⟨_, asked, Outcome.bind_eq_ok.mpr ⟨_, rest, rfl⟩⟩

/-- Settings that validation passes make a field that answers every request of
every sequence, and at every point of the sequence the operands of the steps
that could fault are in order. -/
theorem askAll_never_faults {settings : FieldSettings} (passed : settings.validate = .ok ()) :
    Exists fun empty => configure settings = .ok empty ∧
      forall requests : List FieldRequest, Exists fun answers => Exists fun last =>
        empty.askAll requests = .ok (answers, last) ∧ answers.length = requests.length ∧
          last.settings.OperandsInOrder := by
  have accepted := (FieldSettings.validate_eq_ok settings).mp passed
  refine ⟨blank settings, configure_eq_ok.mpr ⟨accepted, rfl⟩, fun requests => ?_⟩
  have fresh : (blank settings).settings.Accepted := accepted
  rcases askAll_ok fresh requests with ⟨answers, last, asked, counted, kept⟩
  exact ⟨answers, last, asked, counted, kept ▸ fresh.operandsInOrder⟩

/-- Requests before the first layout, at times that are no numbers, and about a
star from nowhere. -/
theorem askAll_never_faults_default : FieldSettings.validate {} = .ok () ∧
    Exists fun empty => configure {} = .ok empty ∧ Exists fun answers => Exists fun last =>
      empty.askAll [.describe Binary.undefined, .resize .smallest, .tick Binary.undefined,
        .tick (Binary.infinity true), .starAlpha
          ⟨⟨Binary.undefined, 0⟩, ⟨0, 0⟩, 0, Binary.infinity false, .black, 0, 7⟩ 16] =
        .ok (answers, last) ∧ answers.length = 5 ∧ last.settings.OperandsInOrder := by
  have passed : FieldSettings.validate {} = .ok () := rfl
  rcases askAll_never_faults passed with ⟨empty, configured, answered⟩
  rcases answered [.describe Binary.undefined, .resize .smallest, .tick Binary.undefined,
    .tick (Binary.infinity true), .starAlpha
      ⟨⟨Binary.undefined, 0⟩, ⟨0, 0⟩, 0, Binary.infinity false, .black, 0, 7⟩ 16] with
    ⟨answers, last, asked, counted, inOrder⟩
  exact ⟨passed, empty, configured, answers, last, asked, counted, inOrder⟩

end ParticleField

end Starfield
