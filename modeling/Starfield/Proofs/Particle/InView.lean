import Starfield.Proofs.Geometry.Viewport
import Starfield.Proofs.Particle.History

namespace Starfield

open Motion (InBand)
open Sampler (IsFraction IsPoint)

/-!
# Stars in view

A layout places every star in the view, and a tick brings it back into the
view, provided that the place it drifts to is a finite one.  The checks on
settings do not ensure that: a range of speeds may have ends so far apart that
their difference is infinite.  A star that has lost its place this way never
finds one again, until the next layout.
-/

namespace Viewport

variable (view : Viewport)

theorem contains_iff (point : Point Float32) :
    view.contains point = true ↔ InBand point.x view.width ∧ InBand point.y view.height := by
  unfold contains InBand
  simp only [Bool.and_eq_true, decide_eq_true_iff, and_assoc]

end Viewport

/-- A fraction of a side lies on that side. -/
theorem inBand_wrap_fraction {t side : Float32} (fraction : IsFraction t) (finite : IsFinite side)
    (positive : 0 < exact side) : InBand (Motion.wrap (t * side) side) side := by
  have product := rounds_mul fraction.finite finite
  have small : |exact t * exact side| ≤ exact side := by
    rw [abs_of_nonneg (mul_nonneg fraction.nonneg positive.le)]
    exact mul_le_of_le_one_left positive.le fraction.lt_one.le
  have inside := product.within (isValue_exact side) small
  exact Motion.inBand_wrap
    (product.isFinite (inside.trans_lt ((le_abs_self _).trans_lt finite.abs_exact_lt))) finite positive

theorem Star.Drawn.contained {settings : FieldSettings} {view : Viewport} {index : ℕ}
    {layer : StarLayer} {star : Star Float32} (drawn : star.Drawn settings view index layer) :
    view.contains star.position = true := by
  rcases drawn.x with ⟨x, horizontal, placeX⟩
  rcases drawn.y with ⟨y, vertical, placeY⟩
  rw [view.contains_iff, placeX, placeY]
  exact ⟨inBand_wrap_fraction horizontal view.isFinite_width view.exact_width_pos,
    inBand_wrap_fraction vertical view.isFinite_height view.exact_height_pos⟩

namespace ParticleField

/-- Every star lies in the view. -/
def StarsInView (field : ParticleField) : Prop :=
  forall star, star ∈ field.population.stars -> field.viewport.contains star.position = true

/-- The place that a star is led to lies at finite coordinates. -/
def StepIsFinite (star : Star Float32) (steps : Float32) : Prop :=
  let next := Motion.drifted star.position star.velocity steps
  IsFinite next.x ∧ IsFinite next.y

/-- A tick at this time leads every star to finite coordinates. -/
def TickIsFinite (field : ParticleField) (timeMs : Float) : Prop :=
  Exists fun steps => field.stepsTo timeMs = .ok steps ∧
    forall star, star ∈ field.population.stars -> StepIsFinite star steps

/-- Every tick of a history since its last layout leads every star to finite
coordinates. -/
def TicksAreFinite (field : ParticleField) (calls : List FieldCall) : Prop :=
  forall earlier timeMs later, calls = earlier ++ .tick timeMs :: later ->
    (forall view, .resize view ∉ later) ->
    Exists fun before => field.run earlier = .ok before ∧ before.TickIsFinite timeMs

/-- A coordinate is in its band or has been lost. -/
def InBandOrLost (x extent : Float32) : Prop :=
  InBand x extent ∨ ¬IsDefined x

/-- No star has a defined coordinate outside the view. -/
def StarsInViewOrLost (field : ParticleField) : Prop :=
  forall star, star ∈ field.population.stars ->
    InBandOrLost star.position.x field.viewport.width ∧
      InBandOrLost star.position.y field.viewport.height

variable {field : ParticleField}

theorem advanced_contained_iff (star : Star Float32) (steps : Float32) :
    field.viewport.contains (star.advance steps field.extent).position = true ↔
      StepIsFinite star steps := by
  rw [Viewport.contains_iff]
  exact and_congr
    (Motion.inBand_wrap_iff field.viewport.isFinite_width field.viewport.exact_width_pos)
    (Motion.inBand_wrap_iff field.viewport.isFinite_height field.viewport.exact_height_pos)

theorem inBandOrLost_wrap (value : Float32) {extent : Float32} (finite : IsFinite extent)
    (positive : 0 < exact extent) : InBandOrLost (Motion.wrap value extent) extent := by
  by_cases inside : IsFinite value
  · exact Or.inl (Motion.inBand_wrap inside finite positive)
  · exact Or.inr (Motion.not_isDefined_wrap inside extent)

/-- A star that is led to a finite place had one. -/
theorem contained_of_stepIsFinite {star : Star Float32} {steps : Float32}
    (place : InBandOrLost star.position.x field.viewport.width ∧
      InBandOrLost star.position.y field.viewport.height)
    (finite : StepIsFinite star steps) : field.viewport.contains star.position = true := by
  rw [Viewport.contains_iff]
  constructor
  · refine place.1.resolve_right fun lost => ?_
    exact not_isDefined_add lost (star.velocity.x * steps) finite.1.isDefined
  · refine place.2.resolve_right fun lost => ?_
    exact not_isDefined_add lost (star.velocity.y * steps) finite.2.isDefined

theorem starsInView_moved_iff (steps : Float32) (timeMs : Float) :
    (field.moved steps timeMs).StarsInView ↔
      forall star, star ∈ field.population.stars -> StepIsFinite star steps := by
  change (forall star, star ∈ field.population.stars.map (·.advance steps field.extent) ->
    field.viewport.contains star.position = true) ↔ _
  rw [List.forall_mem_map]
  exact forall₂_congr fun star _ => advanced_contained_iff star steps

theorem starsInViewOrLost_moved (steps : Float32) (timeMs : Float) :
    (field.moved steps timeMs).StarsInViewOrLost := by
  intro star member
  rcases List.mem_map.mp member with ⟨before, -, rfl⟩
  exact ⟨inBandOrLost_wrap _ field.viewport.isFinite_width field.viewport.exact_width_pos,
    inBandOrLost_wrap _ field.viewport.isFinite_height field.viewport.exact_height_pos⟩

theorem StarsInView.orLost (inView : field.StarsInView) : field.StarsInViewOrLost := by
  intro star member
  have inside := (field.viewport.contains_iff star.position).mp (inView star member)
  exact ⟨Or.inl inside.1, Or.inl inside.2⟩

/-- A layout places every star in its view. -/
theorem starsInView_drawn {settings : FieldSettings} {view : Viewport}
    {population : Population Float Float32} (drawn : population.Drawn settings view)
    (generator : Generator) (generation : ℕ) :
    StarsInView ⟨settings, generator, view, population, generation⟩ := by
  intro star member
  rcases drawn.stars.drawn member with ⟨layer, index, -, shape⟩
  exact shape.contained

theorem tickIsFinite_iff {timeMs : Float} {steps : Float32}
    (counted : field.stepsTo timeMs = .ok steps) : field.TickIsFinite timeMs ↔
      forall star, star ∈ field.population.stars -> StepIsFinite star steps := by
  constructor
  · rintro ⟨others, countedToo, finite⟩
    cases counted.symm.trans countedToo
    exact finite
  · exact fun finite => ⟨steps, counted, finite⟩

/-- What every history keeps to: no star has a defined place outside the view,
and its place is defined exactly if no tick since the last layout lost it. -/
theorem run_spec {settings : FieldSettings} {empty : ParticleField}
    (configured : configure settings = .ok empty) (calls : List FieldCall) :
    Exists fun field => empty.run calls = .ok field ∧ field.settings = settings ∧
      field.StarsInViewOrLost ∧ (field.StarsInView ↔ empty.TicksAreFinite calls) := by
  have begun : empty.StarsInViewOrLost ∧ empty.StarsInView := by
    rcases configure_eq_ok.mp configured with ⟨accepted, rfl⟩
    exact ⟨nofun, nofun⟩
  refine run_sinceLayout_iff configured begun ?_ ?_ calls
  · intro view population generator generation drawn
    have inView := starsInView_drawn drawn generator generation
    exact ⟨inView.orLost, inView⟩
  · intro field timeMs steps counted places
    rw [starsInView_moved_iff, tickIsFinite_iff counted]
    refine ⟨starsInViewOrLost_moved steps timeMs, Iff.rfl, fun finite star member => ?_⟩
    exact contained_of_stepIsFinite (places star member) (finite star member)

end ParticleField

/-- The ends of a range of speeds that causes no overflow. -/
def Range.IsModerate (range : Range) : Prop :=
  |exact range.min| ≤ 2 ^ 30 ∧ |exact range.max| ≤ 2 ^ 30

/-- Settings under which no star is lost, however large the view is. -/
structure FieldSettings.IsModerate (settings : FieldSettings) : Prop where
  speedX : settings.starSpeed.x.IsModerate
  speedY : settings.starSpeed.y.IsModerate
  speedScale : exact settings.motion.speedScale ≤ 2 ^ 30
  maxFrameMs : exact settings.motion.maxFrameMs ≤ 2 ^ 30

/-- The ends are moderate if the widest moderate range contains them. -/
theorem Range.isModerate_of_contains {range : Range}
    (low : (⟨-1073741824, 1073741824⟩ : Range).contains range.min = true)
    (high : (⟨-1073741824, 1073741824⟩ : Range).contains range.max = true) : range.IsModerate := by
  have least : exact (-1073741824 : Float32) = -2 ^ 30 := by
    rw [exact_of_unpack (u := .finite .negative 8388608 7 (by decide)) rfl]
    norm_num [Exact.value, Exact.signed]
  have most : exact (1073741824 : Float32) = 2 ^ 30 := by
    rw [exact_of_unpack (u := .finite .positive 8388608 7 (by decide)) rfl]
    norm_num [Exact.value, Exact.signed]
  have small {x : Float32} (inside : (⟨-1073741824, 1073741824⟩ : Range).contains x = true) :
      |exact x| ≤ 2 ^ 30 := by
    change (decide (-1073741824 ≤ x) && decide (x ≤ 1073741824)) = true at inside
    rw [Bool.and_eq_true, decide_eq_true_iff, decide_eq_true_iff, le_iff (-1073741824) x,
      le_iff x 1073741824, least, most] at inside
    exact abs_le.mpr ⟨inside.1.2.2, inside.2.2.2⟩
  exact ⟨small low, small high⟩

theorem FieldSettings.isModerate_default : FieldSettings.IsModerate {} where
  speedX := Range.isModerate_of_contains (by decide) (by decide)
  speedY := Range.isModerate_of_contains (by decide) (by decide)
  speedScale := exact_single_one.trans_le (one_le_pow₀ one_le_two)
  maxFrameMs := by
    rw [exact_of_unpack (u := .finite .positive 8796093022208000 (-45) (by decide)) rfl]
    norm_num [Exact.value, Exact.signed]

theorem Range.IsModerate.point {range : Range} (moderate : range.IsModerate)
    (ordered : range.IsOrdered) {x : Float32} (point : IsPoint range x) :
    IsFinite x ∧ |exact x| ≤ 2 ^ 32 := by
  rcases point with ⟨t, fraction, rfl⟩
  have difference := rounds_sub ordered.max_finite ordered.min_finite
  have width : IsFinite (range.max - range.min) ∧ |exact (range.max - range.min)| ≤ 2 ^ 31 := by
    apply difference.within_two_pow (by decide)
    calc |exact range.max - exact range.min| ≤ |exact range.max| + |exact range.min| := abs_sub _ _
      _ ≤ 2 ^ 30 + 2 ^ 30 := add_le_add moderate.2 moderate.1
      _ = 2 ^ 31 := by norm_num
  have product := rounds_mul width.1 fraction.finite
  have part : IsFinite ((range.max - range.min) * t) ∧
      |exact ((range.max - range.min) * t)| ≤ 2 ^ 31 := by
    apply product.within_two_pow (by decide)
    rw [abs_mul, abs_of_nonneg fraction.nonneg]
    exact (mul_le_of_le_one_right (abs_nonneg _) fraction.lt_one.le).trans width.2
  apply (rounds_add ordered.min_finite part.1).within_two_pow (by decide)
  calc |exact range.min + exact ((range.max - range.min) * t)|
      ≤ |exact range.min| + |exact ((range.max - range.min) * t)| := abs_add_le _ _
    _ ≤ 2 ^ 30 + 2 ^ 31 := add_le_add moderate.1 part.2
    _ ≤ 2 ^ 32 := by norm_num

/-- A velocity that a moderate range can give. -/
def IsModerateSpeed (x : Float32) : Prop :=
  IsFinite x ∧ |exact x| ≤ 2 ^ 32

/-- A place stays finite when it is left with moderate speed, even close to the
end of the width. -/
theorem isFinite_moved {x speed steps : Float32} (place : IsFinite x) (slow : IsModerateSpeed speed)
    (few : IsFinite steps) (fewer : |exact steps| ≤ 2 ^ 60) : IsFinite (x + speed * steps) := by
  have drift : IsFinite (speed * steps) ∧ |exact (speed * steps)| ≤ 2 ^ 92 := by
    apply (rounds_mul slow.1 few).within_two_pow (by decide)
    rw [abs_mul]
    calc |exact speed| * |exact steps| ≤ 2 ^ 32 * 2 ^ 60 := by
          have nonneg := slow.2
          gcongr
      _ = 2 ^ 92 := by norm_num
  -- The place may be the largest number of all, but the drift is less than half
  -- of the last step before the end.
  apply isFinite_add place drift.1
  refine drift.2.trans_lt ?_
  change (2 : ℚ) ^ 92 < 2 ^ (104 : ℤ) / 2
  norm_num

namespace ParticleField

/-- Every star lies in the view and moves with moderate speed. -/
def StarsAreTame (field : ParticleField) : Prop :=
  forall star, star ∈ field.population.stars ->
    field.viewport.contains star.position = true ∧
      IsModerateSpeed star.velocity.x ∧ IsModerateSpeed star.velocity.y

theorem starsAreTame_resize {field : ParticleField} (accepted : field.settings.Accepted)
    (moderate : field.settings.IsModerate) {view : Viewport} {next : ParticleField}
    (laidOut : field.resize view = .ok next) : next.StarsAreTame := by
  rcases resize_spec accepted view with ⟨population, generator, -, drawn, spec⟩
  cases laidOut.symm.trans spec
  intro star member
  rcases drawn.stars.drawn member with ⟨layer, index, -, shape⟩
  exact ⟨shape.contained, moderate.speedX.point accepted.starSpeedX shape.velocityX,
    moderate.speedY.point accepted.starSpeedY shape.velocityY⟩

theorem starsAreTame_tick {field : ParticleField} (accepted : field.settings.Accepted)
    (moderate : field.settings.IsModerate) (tame : field.StarsAreTame) {timeMs : Float}
    {steps : Float32} (counted : field.stepsTo timeMs = .ok steps) :
    (field.moved steps timeMs).StarsAreTame := by
  rcases Motion.frameSteps_within (by decide) accepted.maxFrameMs accepted.speedScale
    moderate.maxFrameMs moderate.speedScale counted with ⟨finite, few⟩
  intro star member
  rcases List.mem_map.mp member with ⟨before, inField, rfl⟩
  rcases tame before inField with ⟨contained, speedX, speedY⟩
  have inside := (field.viewport.contains_iff before.position).mp contained
  refine ⟨(advanced_contained_iff before steps).mpr ⟨?_, ?_⟩, speedX, speedY⟩
  · exact isFinite_moved (inside.1.isFinite field.viewport.isFinite_width) speedX finite few
  · exact isFinite_moved (inside.2.isFinite field.viewport.isFinite_height) speedY finite few

theorem run_starsAreTame {field last : ParticleField} (accepted : field.settings.Accepted)
    (moderate : field.settings.IsModerate) (tame : field.StarsAreTame) {calls : List FieldCall}
    (reached : field.run calls = .ok last) : last.StarsAreTame := by
  induction calls generalizing field with
  | nil =>
      cases reached
      exact tame
  | cons call calls ih =>
      rw [run_cons] at reached
      rcases Outcome.bind_eq_ok.mp reached with ⟨next, called, rest⟩
      rcases call_ok accepted call with ⟨same, calledSame, kept⟩
      cases called.symm.trans calledSame
      refine ih (kept ▸ accepted) (kept ▸ moderate) ?_ rest
      cases call with
      | resize view => exact starsAreTame_resize accepted moderate called
      | tick timeMs =>
          rcases tick_spec accepted timeMs with ⟨steps, frame, counted, -, ticked⟩
          cases called.symm.trans (call_tick ticked)
          exact starsAreTame_tick accepted moderate tame counted

/-- The stars of a field are in view after every history of layouts and ticks,
exactly if no tick since the last layout has led a star to a place that is not
finite.  Under moderate settings no tick ever does. -/
theorem run_starsInView_iff {settings : FieldSettings} {empty : ParticleField}
    (configured : configure settings = .ok empty) (calls : List FieldCall) :
    Exists fun field => empty.run calls = .ok field ∧
      (field.StarsInView ↔ empty.TicksAreFinite calls) ∧
      (settings.IsModerate -> field.StarsInView) := by
  rcases run_spec configured calls with ⟨field, reached, -, -, inView⟩
  refine ⟨field, reached, inView, fun moderate => ?_⟩
  rcases configure_eq_ok.mp configured with ⟨accepted, rfl⟩
  have tame := run_starsAreTame accepted moderate (fun star member => by cases member) reached
  exact fun star member => (tame star member).1

/-- The settings that hold when nothing is set are accepted and moderate. -/
theorem run_starsInView_default :
    configure {} = .ok (blank {}) ∧ FieldSettings.IsModerate {} ∧
      Exists fun field =>
        run (blank {}) [.resize .smallest, .tick 0, .tick 16] = .ok field ∧
          field.StarsInView := by
  have configured : configure {} = .ok (blank {}) :=
    configure_eq_ok.mpr ⟨FieldSettings.accepted_default, rfl⟩
  rcases run_starsInView_iff configured [.resize .smallest, .tick 0, .tick 16] with
    ⟨field, reached, -, inView⟩
  exact ⟨configured, FieldSettings.isModerate_default, field, reached,
    inView FieldSettings.isModerate_default⟩

/-- Accepted settings whose horizontal speeds lie further apart than the
largest number. -/
def scatteringSettings : FieldSettings where
  layers := [⟨1, ⟨1, 1⟩⟩]
  starSpeed := ⟨⟨-3e38, 3e38⟩, ⟨0, 0⟩⟩
  nebula := { count := 0 }

/-- So there are accepted settings under which the first tick takes a star out
of the view. -/
theorem exists_star_outside_view : Exists fun empty => Exists fun field =>
    configure scatteringSettings = .ok empty ∧
      empty.run [.resize .smallest, .tick 0] = .ok field ∧ ¬field.StarsInView := by
  have lost : ((configure scatteringSettings).toOption.bind fun empty =>
      (empty.run [.resize .smallest, .tick 0]).toOption.map fun field =>
        field.population.stars.all (field.viewport.contains ·.position)) = some false := by
    decide +kernel
  rcases Option.bind_eq_some_iff.mp lost with ⟨empty, configured, ran⟩
  rcases Option.map_eq_some_iff.mp ran with ⟨field, reached, outside⟩
  refine ⟨empty, field, Outcome.toOption_eq_some.mp configured,
    Outcome.toOption_eq_some.mp reached, fun inView => ?_⟩
  rw [List.all_eq_true.mpr inView] at outside
  cases outside

end ParticleField

end Starfield
