import Starfield.Proofs.Particle.History
import Starfield.Proofs.Particle.Standstill

namespace Starfield

/-!
# Stalls

A bound on the time of a step is there so that a host that stood still does not
throw particles across the view.  The checks on settings hold the bound and the
factor on the steps apart: each is finite and not negative.  That makes the
steps of every time ordered as the times are, unless those of the bound are
undefined, and finite, unless those of the bound are infinite.  Both happen:
the number of frames in the bound need not be one of single precision, and if
it is infinite, a factor of zero does not make it nothing.
-/

namespace Motion

/-- The steps that settings make of an elapsed time. -/
def stepsOf (motion : MotionSettings) (elapsed : Float) : Except Fault Float32 :=
  frameSteps elapsed motion.maxFrameMs motion.speedScale

/-- The number of reference frames in a time, rounded to both widths. -/
def framesIn (time : ℚ) : ℚ :=
  roundTo Float32 (roundTo Float (time / exact (Clock.referenceFrame : Float)))

theorem framesIn_mono {time other : ℚ} (ordered : time ≤ other) : framesIn time ≤ framesIn other := by
  have frame := zero_le_one.trans one_le_referenceFrame
  exact Exact.rounded_mono (Exact.rounded_mono (div_le_div_of_nonneg_right ordered frame))

theorem framesIn_nonneg {time : ℚ} (nonneg : 0 ≤ time) : 0 ≤ framesIn time := by
  have frame := zero_le_one.trans one_le_referenceFrame
  exact Exact.le_rounded .zero (Exact.le_rounded .zero (div_nonneg nonneg frame))

variable {motion : MotionSettings}

/-- The steps are the frames of the held time with the factor. -/
theorem stepsOf_spec (bounded : IsNonNegative motion.maxFrameMs) (elapsed : Float) :
    Exists fun frames : Float32 => stepsOf motion elapsed = .ok (frames * motion.speedScale) ∧
      IsDefined frames ∧ exact frames = framesIn (heldTime elapsed motion.maxFrameMs) := by
  rcases frameSteps_spec bounded elapsed motion.speedScale with ⟨time, finite, exactly, counted⟩
  rcases rounds_frames finite with ⟨quotient, narrowed⟩
  refine ⟨_, counted, narrowed.defined, ?_⟩
  rw [narrowed.exact_eq, quotient.exact_eq, exactly]
  rfl

/-- Times that are held in order make steps in order, as far as the larger
number of them is defined. -/
theorem stepsOf_mono (bounded : IsNonNegative motion.maxFrameMs)
    (scaled : IsNonNegative motion.speedScale) {shorter longer : Float} {fewer more : Float32}
    (ordered : heldTime shorter motion.maxFrameMs ≤ heldTime longer motion.maxFrameMs)
    (few : stepsOf motion shorter = .ok fewer) (many : stepsOf motion longer = .ok more)
    (defined : IsDefined more) : 0 ≤ fewer ∧ fewer ≤ more := by
  rcases stepsOf_spec bounded shorter with ⟨frames, counted, first, framesEq⟩
  rcases stepsOf_spec bounded longer with ⟨others, countedToo, second, othersEq⟩
  cases few.symm.trans counted
  cases many.symm.trans countedToo
  have nonneg : 0 ≤ exact frames := framesEq ▸ framesIn_nonneg (heldTime_nonneg _ _)
  have between : exact frames ≤ exact others := by
    rw [framesEq, othersEq]
    exact framesIn_mono ordered
  rcases mul_le_mul_of_isDefined first nonneg second between scaled.finite scaled.nonneg defined with
    ⟨product, low, high⟩
  have zero : IsDefined (0 : Float32) := rfl
  exact ⟨(le_iff_exact zero product).mpr (exact_single_zero.trans_le low),
    (le_iff_exact product defined).mpr high⟩

/-- A longer time makes at least as many steps as a shorter one, and none makes
more than the longest. -/
def StepsAreOrdered (motion : MotionSettings) : Prop :=
  forall shorter longer, IsFinite shorter -> IsFinite longer -> shorter ≤ longer ->
    Exists fun fewer => Exists fun more => Exists fun most =>
      stepsOf motion shorter = .ok fewer ∧ stepsOf motion longer = .ok more ∧
        stepsOf motion motion.maxFrameMs = .ok most ∧ 0 ≤ fewer ∧ fewer ≤ more ∧ more ≤ most

/-- Besides, every time makes a finite number of steps, and no tick of a field
drifts anything further than the longest time does. -/
structure StepsAreBounded (motion : MotionSettings) : Prop where
  ordered : StepsAreOrdered motion
  finite : forall elapsed, IsFinite elapsed ->
    Exists fun steps => stepsOf motion elapsed = .ok steps ∧ IsFinite steps
  noFurther : forall (field : ParticleField) timeMs speed, field.settings.motion = motion ->
    IsFinite speed -> Exists fun steps => Exists fun most => field.stepsTo timeMs = .ok steps ∧
      stepsOf motion motion.maxFrameMs = .ok most ∧ IsFinite most ∧
      |exact (speed * steps)| ≤ |exact (speed * most)|

/-- A drift at any speed is not longer with fewer steps. -/
theorem abs_exact_drift_le {speed fewer more : Float32} (finite : IsFinite speed)
    (first : IsFinite fewer) (second : IsFinite more) (nonneg : 0 ≤ exact fewer)
    (ordered : exact fewer ≤ exact more) : |exact (speed * fewer)| ≤ |exact (speed * more)| := by
  have shorter : |exact speed * exact fewer| ≤ |exact speed * exact more| := by
    rw [abs_mul, abs_mul, abs_of_nonneg nonneg, abs_of_nonneg (nonneg.trans ordered)]
    gcongr
  rw [(rounds_mul finite first).exact_eq, (rounds_mul finite second).exact_eq]
  unfold roundTo
  rw [Exact.abs_rounded, Exact.abs_rounded]
  exact Exact.rounded_mono shorter

section Accepted

variable (bounded : IsNonNegative motion.maxFrameMs) (scaled : IsNonNegative motion.speedScale)
  {most : Float32} (longest : stepsOf motion motion.maxFrameMs = .ok most)

include bounded scaled longest

/-- Every time, finite or not, is held to the longest one. -/
theorem stepsOf_le_most (defined : IsDefined most) {elapsed : Float} {steps : Float32}
    (counted : stepsOf motion elapsed = .ok steps) : 0 ≤ steps ∧ steps ≤ most := by
  refine stepsOf_mono bounded scaled ?_ counted longest defined
  rw [heldTime_self bounded]
  exact heldTime_le bounded elapsed

theorem stepsAreOrdered_of_isDefined (defined : IsDefined most) : StepsAreOrdered motion := by
  intro shorter longer _ finite ordered
  rcases stepsOf_spec bounded shorter with ⟨frames, few, -⟩
  rcases stepsOf_spec bounded longer with ⟨others, many, -⟩
  have within := stepsOf_le_most bounded scaled longest defined many
  have inOrder := stepsOf_mono bounded scaled (heldTime_mono motion.maxFrameMs finite ordered)
    few many ((le_iff _ _).mp within.2).1
  exact ⟨_, _, most, few, many, longest, inOrder.1, inOrder.2, within.2⟩

theorem stepsAreBounded_of_isFinite (finite : IsFinite most) : StepsAreBounded motion := by
  have within (elapsed : Float) : Exists fun steps : Float32 => stepsOf motion elapsed = .ok steps ∧
      IsFinite steps ∧ 0 ≤ exact steps ∧ exact steps ≤ exact most := by
    rcases stepsOf_spec bounded elapsed with ⟨frames, counted, -⟩
    rcases stepsOf_le_most bounded scaled longest finite.isDefined counted with ⟨above, below⟩
    rcases (le_iff _ _).mp above with ⟨-, defined, low⟩
    have high := ((le_iff _ _).mp below).2.2
    rw [exact_single_zero] at low
    refine ⟨_, counted, (isFinite_iff _).mpr ⟨defined, ?_⟩, low, high⟩
    rw [abs_of_nonneg low]
    exact high.trans_lt ((le_abs_self _).trans_lt finite.abs_exact_lt)
  refine ⟨stepsAreOrdered_of_isDefined bounded scaled longest finite.isDefined, fun elapsed _ => ?_,
    fun field timeMs speed same slow => ?_⟩
  · rcases within elapsed with ⟨steps, counted, number, -⟩
    exact ⟨steps, counted, number⟩
  · rcases within (field.population.elapsed timeMs) with ⟨steps, counted, number, low, high⟩
    refine ⟨steps, most, ?_, longest, finite, abs_exact_drift_le slow number finite low high⟩
    unfold ParticleField.stepsTo
    rw [same]
    exact counted

end Accepted

/-- For accepted settings, time that has not passed makes no steps.  The bound on
the time of a step bounds the steps exactly if those of the bound itself are
finite, as they are for a bound and a factor that are not enormous together, and
keeps them in order exactly if those of the bound are defined. -/
theorem stepsAreBounded_iff {settings : FieldSettings} (accepted : settings.validate = .ok ()) :
    (forall elapsed, elapsed ≤ 0 ∨ ¬IsFinite elapsed -> Exists fun steps =>
      stepsOf settings.motion elapsed = .ok steps ∧ (steps == 0) = true) ∧
    Exists fun most => stepsOf settings.motion settings.motion.maxFrameMs = .ok most ∧
      (StepsAreBounded settings.motion ↔ IsFinite most) ∧
      (StepsAreOrdered settings.motion ↔ IsDefined most) ∧
      forall n m, n + m < 128 -> exact settings.motion.maxFrameMs ≤ 2 ^ n ->
        exact settings.motion.speedScale ≤ 2 ^ m -> IsFinite most := by
  have passed := (FieldSettings.validate_eq_ok settings).mp accepted
  have bounded := passed.maxFrameMs
  have scaled := passed.speedScale
  rcases stepsOf_spec bounded settings.motion.maxFrameMs with ⟨frames, longest, -⟩
  refine ⟨fun elapsed nothing => ?_, _, longest, ⟨fun bounds => ?_, fun finite => ?_⟩,
    ⟨fun ordered => ?_, fun defined => ?_⟩, fun n m room short slow => ?_⟩
  · rcases stepsOf_spec bounded elapsed with ⟨others, counted, -⟩
    have zero := isZero_of_frameSteps bounded scaled.finite (heldTime_eq_zero _ nothing) counted
    refine ⟨_, counted, (single_beq_iff _ _).mpr ⟨zero.isFinite.isDefined, rfl, ?_⟩⟩
    rw [zero.exact_eq, exact_single_zero]
  · rcases bounds.finite _ bounded.finite with ⟨steps, counted, finite⟩
    cases longest.symm.trans counted
    exact finite
  · exact stepsAreBounded_of_isFinite bounded scaled longest finite
  · have number := bounded.finite.isDefined
    rcases ordered _ _ bounded.finite bounded.finite ((le_iff_exact number number).mpr le_rfl) with
      ⟨fewer, more, most, -, -, counted, -, -, high⟩
    cases longest.symm.trans counted
    exact ((le_iff _ _).mp high).2.1
  · exact stepsAreOrdered_of_isDefined bounded scaled longest defined
  · exact (frameSteps_within room bounded scaled short slow longest).1

/-- A quarter of a second and the factor 1, the settings that hold when nothing
is set. -/
theorem stepsAreBounded_default :
    FieldSettings.validate {} = .ok () ∧ StepsAreBounded ({} : MotionSettings) := by
  have accepted : FieldSettings.validate {} = .ok () := rfl
  rcases stepsAreBounded_iff accepted with ⟨-, most, -, bounded_iff, -, finite⟩
  refine ⟨accepted, bounded_iff.mpr (finite 8 0 (by decide) ?_ ?_)⟩
  · rw [exact_of_unpack (u := .finite .positive 8796093022208000 (-45) (by decide)) rfl]
    norm_num [Exact.value, Exact.signed]
  · exact exact_single_one.le.trans_eq (pow_zero 2).symm

/-- Settings of a field that is to stand still, with a bound on the time of a
step that never applies. -/
def frozenSettings : FieldSettings where
  motion := ⟨0, 1e40⟩

/-- They are accepted, but the steps of the bound are undefined. -/
theorem not_stepsAreBounded_frozen :
    frozenSettings.validate = .ok () ∧ ¬StepsAreBounded frozenSettings.motion := by
  refine ⟨Outcome.toOption_eq_some.mp (by decide +kernel), fun bounded => ?_⟩
  have undefined : (stepsOf frozenSettings.motion 1e40).toOption.map (·.isFinite) = some false := by
    decide +kernel
  rcases bounded.finite 1e40 (by decide +kernel) with ⟨steps, counted, finite⟩
  rw [counted] at undefined
  exact Bool.false_ne_true ((Option.some.inj undefined).symm.trans finite)

end Motion

end Starfield
