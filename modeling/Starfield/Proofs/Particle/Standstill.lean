import Starfield.Proofs.Number.Zeros
import Starfield.Proofs.Particle.MarginBand

namespace Starfield

/-!
# No time to advance

Without time there are no steps, and a drift of no steps ends where it began.
Bringing a coordinate into a band that it lies in leaves it there.  With a
margin that is not so: the coordinate is moved up by the margin and down again,
and it comes back only if both can be done without rounding it away.
-/

namespace Motion

/-! ## Steps -/

/-- A time that is held to nothing makes no steps. -/
theorem isZero_of_frameSteps {longest elapsed : Float} {scale steps : Float32}
    (bounded : IsNonNegative longest) (scaled : IsFinite scale)
    (standing : heldTime elapsed longest = 0)
    (counted : frameSteps elapsed longest scale = .ok steps) : IsZero steps := by
  rcases frameSteps_spec bounded elapsed scale with ⟨time, finite, exactly, taken⟩
  rcases rounds_frames finite with ⟨quotient, narrowed⟩
  rw [exactly, standing, zero_div] at quotient
  rw [quotient.spec_of_zero.2] at narrowed
  have product := rounds_mul narrowed.spec_of_zero.1 scaled
  rw [narrowed.spec_of_zero.2, zero_mul] at product
  rw [Except.ok.inj (counted.symm.trans taken)]
  exact isZero_of_exact_eq product.spec_of_zero.1 product.spec_of_zero.2

/-- A time that runs backward, or not at all, is held to nothing. -/
theorem heldTime_of_le {last time : Float} (longest : Float) (before : time ≤ last) :
    heldTime (time - last) longest = 0 := by
  apply heldTime_eq_zero
  by_cases finite : IsFinite (time - last)
  · have operands := isFinite_operands_of_sub finite
    have difference := rounds_sub operands.1 operands.2
    have nonpos := difference.le .zero (sub_nonpos.mpr ((le_iff _ _).mp before).2.2)
    refine Or.inl ((le_iff _ _).mpr ⟨difference.defined, rfl, ?_⟩)
    rwa [exact_double_zero]
  · exact Or.inr finite

/-! ## Bands -/

variable {value extent margin : Float32}

/-- A coordinate is brought to where it is. -/
theorem wrap_of_inside (finite : IsFinite value) (defined : IsDefined extent)
    (low : 0 ≤ exact value) (high : exact value < exact extent) :
    SameNumber (wrap value extent) value := by
  have positive := low.trans_lt high
  by_cases bound : IsFinite extent
  · rcases wrap_of_nonneg finite bound positive low with ⟨number, rest⟩
    have whole : Int.fract (exact value / exact extent) = exact value / exact extent :=
      Int.fract_eq_self.mpr ⟨div_nonneg low positive.le, (div_lt_one positive).mpr high⟩
    rw [whole, div_mul_cancel₀ _ positive.ne'] at rest
    exact sameNumber_of_exact_eq number finite rest
  · rw [eq_endless defined bound positive.le, wrap_endless_of_nonneg finite low]
    exact .refl value

/-- Beyond the first turn, bringing a coordinate back moves it by a turn at
least. -/
theorem wrap_le_sub {period : Float32} (finite : IsFinite value) (bound : IsFinite period)
    (positive : 0 < exact period) (beyond : exact period ≤ exact value) :
    exact (wrap value period) ≤ exact value - exact period := by
  have nonneg := positive.le.trans beyond
  have turns : (1 : ℤ) ≤ ⌊exact value / exact period⌋ :=
    Int.le_floor.mpr (by rwa [Int.cast_one, one_le_div positive])
  have least : (1 : ℚ) ≤ ⌊exact value / exact period⌋ := by exact_mod_cast turns
  rw [(wrap_of_nonneg finite bound positive nonneg).2, Int.fract, sub_mul,
    div_mul_cancel₀ _ positive.ne']
  exact sub_le_sub_left (le_mul_of_one_le_left positive.le least) _

/-- The coordinate comes back when it is moved up by the margin and down again,
and does not reach the period in between. -/
def IsSettled (x extent margin : Float32) : Prop :=
  x + margin < period extent margin ∧ (x + margin - margin == x) = true

instance (x extent margin : Float32) : Decidable (IsSettled x extent margin) :=
  inferInstanceAs (Decidable (_ ∧ _))

variable {x moved : Float32}

/-- A finite period is rounded from its length, and the margin fits into it
twice. -/
theorem finitePeriod_spec (bound : IsFinite extent) (positive : 0 < exact extent)
    (finite : IsFinite margin) (nonneg : 0 ≤ exact margin) (short : IsFinite (period extent margin)) :
    Rounds (period extent margin) (exact extent + 2 * exact margin) ∧
      2 * exact margin ≤ exact (period extent margin) := by
  have inside : IsFinite (2 * margin) := (isFinite_operands_of_add short).2
  have double := (exact_two_mul finite nonneg).2
  have twice : exact (2 * margin) = 2 * exact margin := by
    rcases min_choice (limit Float32) (2 * exact margin) with end_eq | same
    · have reached := (le_abs_self _).trans_lt inside.abs_exact_lt
      rw [double, end_eq] at reached
      exact absurd reached (lt_irrefl _)
    · rw [double, same]
  have sum := rounds_add bound inside
  have large := sum.ge (isValue_exact (2 * margin)) (by linarith)
  rw [twice] at sum large
  exact ⟨sum, large⟩

/-- A coordinate that is brought to where it was does not reach the period on
the way: it would lose a whole period, and no rounding gives that back. -/
theorem add_margin_lt_period (bound : IsFinite extent) (long : 1 ≤ exact extent)
    (nonneg : 0 ≤ exact margin) (closed : InClosedBand x extent margin)
    (finite : IsFinite (moved + margin)) (same : SameNumber moved x)
    (back : exact (wrapWithMargin moved extent margin) = exact x) :
    exact (x + margin) < exact (period extent margin) := by
  have positive : 0 < exact extent := zero_lt_one.trans_le long
  have summed := same.add_right margin
  have marginFinite := (isFinite_operands_of_add finite).2
  have sumFinite := summed.isFinite_iff.mp finite
  rcases period_spec bound marginFinite nonneg with ⟨defined, longer, -⟩
  by_contra reached
  rw [not_lt] at reached
  have periodPositive := positive.trans_le longer
  have short : IsFinite (period extent margin) := by
    rw [isFinite_iff, abs_of_pos periodPositive]
    exact ⟨defined, reached.trans_lt ((le_abs_self _).trans_lt sumFinite.abs_exact_lt)⟩
  rcases finitePeriod_spec bound positive marginFinite nonneg short with ⟨length, twice⟩
  -- The way back leaves the coordinate a period below where the way up led.
  have fallen : exact x ≤ exact (x + margin) - exact (period extent margin) := by
    have rest := wrap_le_sub finite short periodPositive (summed.exact_eq ▸ reached)
    have number := (wrap_spec finite defined periodPositive).1
    have lowered := rounds_sub number marginFinite
    have below : exact (wrap (moved + margin) (period extent margin) - margin) ≤
        exact (wrap (moved + margin) (period extent margin)) :=
      lowered.le (isValue_exact _) (by linarith)
    rw [← back, ← summed.exact_eq]
    exact below.trans rest
  have high : exact x ≤ exact (period extent margin) :=
    ((le_iff _ _).mp closed.high).2.2.trans
      ((rounds_add bound marginFinite).exact_le_exact length (by linarith))
  have sum := rounds_add closed.isFinite marginFinite
  have most := sum.le_two_mul sumFinite periodPositive (by linarith)
  have sumPositive := periodPositive.trans_le reached
  have coarse := spacing_ne_of_large (x := exact (x + margin)) (by linarith)
  have steps := Exact.le_div_spacing sumPositive coarse
  rw [le_div_iff₀ (by positivity)] at steps
  have digits : (Binary.format Float32).mantissaBitsWithoutImplicit = 23 := rfl
  rw [digits] at steps
  have before := sum.le ((isValue_exact (x + margin)).sub_step sumPositive) (by linarith)
  have step : (0 : ℚ) < 2 ^ Exact.spacing (Binary.format Float32) (exact (x + margin)) := by
    positivity
  linarith

/-- Short of the period, the way up and down is all that happens. -/
theorem wrapWithMargin_of_short (bound : IsFinite extent) (closed : InClosedBand x extent margin)
    (nonneg : 0 ≤ exact margin) (finite : IsFinite (x + margin)) (same : SameNumber moved x)
    (below : exact (x + margin) < exact (period extent margin)) :
    SameNumber (wrapWithMargin moved extent margin) (x + margin - margin) := by
  have summed := same.add_right margin
  have marginFinite := (isFinite_operands_of_add finite).2
  have low := ((le_iff _ _).mp closed.low).2.2
  rw [exact_neg] at low
  have above : 0 ≤ exact (x + margin) :=
    (rounds_add closed.isFinite marginFinite).ge .zero (by linarith)
  have inside := wrap_of_inside (summed.isFinite_iff.mpr finite)
    (period_spec bound marginFinite nonneg).1 (summed.exact_eq ▸ above) (summed.exact_eq ▸ below)
  exact (inside.trans summed).sub_right margin

/-- A settled coordinate stays where it is. -/
theorem IsSettled.wrapWithMargin (settled : IsSettled x extent margin)
    (place : IsDefined x -> InClosedBand x extent margin) (bound : IsFinite extent)
    (isMargin : IsMargin margin) (same : SameNumber moved x) :
    SameNumber (wrapWithMargin moved extent margin) x := by
  rcases (single_beq_iff _ _).mp settled.2 with ⟨round, number, exactly⟩
  rcases (lt_iff _ _).mp settled.1 with ⟨defined, -, below⟩
  have closed := place number
  have inside := abs_lt.mp closed.isFinite.abs_exact_lt
  have low := (le_add_of_defined closed.isFinite isMargin.defined isMargin.nonneg).2
  have finite : IsFinite (x + margin) := by
    refine (isFinite_iff _).mpr ⟨defined, abs_lt.mpr ⟨by linarith, below.trans_le ?_⟩⟩
    exact (le_abs_self _).trans (isValue_exact (period extent margin)).bounded
  have stays := wrapWithMargin_of_short bound closed isMargin.nonneg finite same below
  have backFinite : IsFinite (x + margin - margin) := by
    rw [isFinite_iff, exactly]
    exact ⟨round, closed.isFinite.abs_exact_lt⟩
  exact stays.trans (sameNumber_of_exact_eq backFinite closed.isFinite exactly)

/-- A coordinate that is not moved comes back from its band exactly if it is
settled. -/
theorem wrapWithMargin_beq_iff (same : SameNumber moved x)
    (place : IsDefined x -> InClosedBand x extent margin) (bound : IsFinite extent)
    (long : 1 ≤ exact extent) (isMargin : IsMargin margin) :
    (wrapWithMargin moved extent margin == x) = true ↔ IsSettled x extent margin := by
  constructor
  · intro back
    rcases (single_beq_iff _ _).mp back with ⟨wrapped, number, exactly⟩
    have finite : IsFinite (moved + margin) := by
      by_contra infinite
      exact not_isDefined_wrapWithMargin infinite extent wrapped
    have sumFinite := (same.add_right margin).isFinite_iff.mp finite
    have marginFinite := (isFinite_operands_of_add sumFinite).2
    have below := add_margin_lt_period bound long isMargin.nonneg (place number) finite same exactly
    have stays := wrapWithMargin_of_short bound (place number) isMargin.nonneg sumFinite same below
    refine ⟨(lt_iff _ _).mpr ⟨sumFinite.isDefined,
      (period_spec bound marginFinite isMargin.nonneg).1, below⟩, ?_⟩
    exact (single_beq_iff _ _).mpr ⟨(isDefined_iff_of_sameNumber stays).mp wrapped, number,
      stays.exact_eq.symm.trans exactly⟩
  · intro settled
    exact (settled.wrapWithMargin place bound isMargin same).beq
      ((single_beq_iff _ _).mp settled.2).2.1

/-- A coordinate that is not moved stays in its band. -/
theorem InBand.wrap (inside : InBand x extent) (bound : IsFinite extent) (same : SameNumber moved x) :
    SameNumber (wrap moved extent) x := by
  have finite := inside.isFinite bound
  rcases (inBand_iff bound).mp inside with ⟨-, low, high⟩
  exact (wrap_of_inside (same.isFinite_iff.mpr finite) bound.isDefined (same.exact_eq ▸ low)
    (same.exact_eq ▸ high)).trans same

theorem wrap_beq_iff (same : SameNumber moved x) (place : IsDefined x -> InBand x extent)
    (bound : IsFinite extent) : (wrap moved extent == x) = true ↔ InBand x extent := by
  constructor
  · intro back
    exact place ((single_beq_iff _ _).mp back).2.1
  · intro inside
    exact (inside.wrap bound same).beq inside.isDefined

/-- A drift of no steps leads nowhere. -/
theorem sameNumber_drift {velocity steps : Float32} (finite : IsFinite velocity)
    (standing : IsZero steps) (x : Float32) : SameNumber (x + velocity * steps) x :=
  sameNumber_add_of_isZero (isZero_mul_of_isZero finite standing) x

end Motion

end Starfield
