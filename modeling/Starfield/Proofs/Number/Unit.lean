import Starfield.Proofs.Number.Bounds
import Starfield.Proofs.Number.Scaling
import Starfield.Proofs.Number.Zeros

namespace Starfield

open Float.Model (Format)

/-!
# Numbers between zero and one

Zero and one are numbers of every width, so rounding leads nothing out of the
interval between them: products of such numbers, and what is missing of one of
them to one, lie there again.

What is missing is rounded, by a quarter of the step above one at the most.  A
sum that misses one by that little is rounded to one, also where it lies half
way to the number before, because one is the even neighbour there.  So a number
and what it is short of one are exactly one together.
-/

/-- A number between 0 and 1. -/
structure IsUnit (x : Float32) : Prop where
  finite : IsFinite x
  nonneg : 0 ≤ exact x
  le_one : exact x ≤ 1

theorem isUnit_iff (value : Float32) :
    (value.isFinite && 0 ≤ value && value ≤ 1) = true ↔ IsUnit value := by
  rw [Bool.and_eq_true, Bool.and_eq_true, decide_eq_true_iff, decide_eq_true_iff, isFinite_single,
    le_iff 0 value, le_iff value 1, exact_single_zero, exact_single_one]
  constructor
  · rintro ⟨⟨finite, low⟩, high⟩
    exact ⟨finite, low.2.2, high.2.2⟩
  · rintro ⟨finite, low, high⟩
    exact ⟨⟨finite, rfl, finite.isDefined, low⟩, finite.isDefined, rfl, high⟩

theorem isValue_single_one : IsValue Float32 1 :=
  exact_single_one ▸ isValue_exact (1 : Float32)

theorem IsUnit.of_bounds {x : Float32} (defined : IsDefined x) (nonneg : 0 ≤ exact x)
    (le_one : exact x ≤ 1) : IsUnit x := by
  refine ⟨(isFinite_iff x).mpr ⟨defined, ?_⟩, nonneg, le_one⟩
  rw [abs_of_nonneg nonneg]
  exact le_one.trans_lt (one_lt_pow₀ one_lt_two (by decide))

/-- A result between zero and one stays there. -/
theorem Rounds.isUnit {x : Float32} {target : ℚ} (rounds : Rounds x target) (nonneg : 0 ≤ target)
    (le_one : target ≤ 1) : IsUnit x :=
  .of_bounds rounds.defined (rounds.ge Exact.Representable.zero nonneg)
    (rounds.le isValue_single_one le_one)

theorem isUnit_zero : IsUnit 0 :=
  ⟨rfl, exact_single_zero.ge, exact_single_zero.trans_le zero_le_one⟩

theorem isUnit_one : IsUnit 1 :=
  ⟨rfl, zero_le_one.trans_eq exact_single_one.symm, exact_single_one.le⟩

theorem eq_of_exact_eq {x y : Float32} (finite : IsFinite x) (otherFinite : IsFinite y)
    (positive : 0 < exact y) (same : exact x = exact y) : x = y :=
  eq_of_exact_eq_of_ne_zero finite.isDefined otherFinite.isDefined same (same.trans_ne positive.ne')

/-- The only number that stands for one. -/
theorem eq_one_of_exact_eq {x : Float32} (finite : IsFinite x) (same : exact x = 1) : x = 1 :=
  eq_of_exact_eq finite rfl (exact_single_one ▸ zero_lt_one) (same.trans exact_single_one.symm)

/-- Moving a number into the interval. -/
theorem clampUnit_spec {x : Float32} (defined : IsDefined x) : IsUnit (Single.clampUnit x) ∧
    exact (Single.clampUnit x) = max 0 (min 1 (exact x)) := by
  have ordered : exact (0 : Float32) ≤ exact (1 : Float32) := by
    rw [exact_single_zero, exact_single_one]
    exact zero_le_one
  have clamped : IsDefined (Single.clampUnit x) ∧ exact (Single.clampUnit x) =
      max (exact (0 : Float32)) (min (exact (1 : Float32)) (exact x)) :=
    clamp_spec rfl rfl defined ordered
  rw [exact_single_zero, exact_single_one] at clamped
  refine ⟨.of_bounds clamped.1 ?_ ?_, clamped.2⟩
  · exact clamped.2 ▸ le_max_left _ _
  · exact clamped.2 ▸ max_le zero_le_one (min_le_left _ _)

/-- A number of the interval is not moved into it. -/
theorem IsUnit.clampUnit_eq {x : Float32} (unit : IsUnit x) : Single.clampUnit x = x := by
  have notBelow : ¬x < 0 := by
    rw [single_lt_zero_iff unit.finite.isDefined]
    exact unit.nonneg.not_gt
  have notAbove : ¬1 < x := by
    rw [lt_iff_exact (show IsDefined (1 : Float32) from rfl) unit.finite.isDefined, exact_single_one]
    exact unit.le_one.not_gt
  unfold Single.clampUnit clamp
  rw [if_neg notBelow, if_neg notAbove]

/-- What is half a step away from one, or less, is rounded to it.  The steps
above one are twice as wide as those below. -/
theorem roundTo_eq_one {x : ℚ} (low : 1 - 1 / 2 ^ 25 ≤ x) (high : x ≤ 1 + 1 / 2 ^ 24) :
    roundTo Float32 x = 1 := by
  have whole : Binary.unpack (1 : Float32) = .finite .positive 8388608 (-23) (by decide) := rfl
  have canonical := (sound (1 : Float32)).canonical
  rw [whole] at canonical
  have holds : (Shortest.neighbourhood (Binary.format Float32) 8388608 (-23)).Holds x := by
    have grid : Shortest.neighbourhood (Binary.format Float32) 8388608 (-23) =
      ⟨33554431, 33554432, 33554434, -25, true⟩ := rfl
    rw [grid]
    constructor
    · refine (le_iff_lt_or_eq.mp ?_).imp_right fun same => ⟨rfl, same⟩
      norm_num at low ⊢
      linarith
    · refine (le_iff_lt_or_eq.mp ?_).imp_right fun same => ⟨rfl, same⟩
      norm_num at high ⊢
      linarith
  have nonneg : 0 ≤ x := le_trans (by norm_num) low
  have kept : Exact.nearest (Binary.format Float32) x = 1 := by
    rw [Exact.nearest, if_pos nonneg, Exact.onGrid_of_holds canonical holds]
    norm_num
  have room : |(1 : ℚ)| ≤ Exact.limit (Binary.format Float32) := isValue_single_one.bounded
  rw [← kept] at room
  rw [roundTo, Exact.rounded_eq_nearest room, kept]

/-- A result between zero and one stays there even if it lies beyond one, as
long as that is by half a step at most. -/
theorem Rounds.isUnit_of_near {x : Float32} {target : ℚ} (rounds : Rounds x target)
    (nonneg : 0 ≤ target) (near : target ≤ 1 + 1 / 2 ^ 24) : IsUnit x := by
  refine .of_bounds rounds.defined (rounds.ge Exact.Representable.zero nonneg) ?_
  calc exact x = roundTo Float32 target := rounds.exact_eq
    _ ≤ roundTo Float32 (1 + 1 / 2 ^ 24) := Exact.rounded_mono near
    _ = 1 := roundTo_eq_one (by norm_num) le_rfl

namespace IsUnit

variable {x y : Float32}

theorem exact_pos (unit : IsUnit x) (notBelow : ¬x ≤ 0) : 0 < exact x := by
  rw [le_iff, exact_single_zero] at notBelow
  exact not_le.mp fun below => notBelow ⟨unit.finite.isDefined, rfl, below⟩

theorem mul (first : IsUnit x) (second : IsUnit y) : IsUnit (x * y) :=
  (rounds_mul first.finite second.finite).isUnit (mul_nonneg first.nonneg second.nonneg)
    (mul_le_one₀ first.le_one second.nonneg second.le_one)

/-- What is missing to one. -/
theorem complement (unit : IsUnit x) : IsUnit (1 - x) := by
  have difference := rounds_sub (x := (1 : Float32)) rfl unit.finite
  rw [exact_single_one] at difference
  exact difference.isUnit (by linarith [unit.le_one]) (by linarith [unit.nonneg])

/-- What is missing to one is rounded by a quarter of the step above one at
most: below one the steps are half as wide. -/
theorem abs_complement_sub_le (unit : IsUnit x) :
    |exact (1 - x) - (1 - exact x)| ≤ 1 / 2 ^ 25 := by
  have difference := rounds_sub (x := (1 : Float32)) rfl unit.finite
  have low := unit.nonneg
  have high := unit.le_one
  rw [exact_single_one] at difference
  have near := (difference.abs_sub_le_two_pow (n := 0) (by decide)
    (abs_le.mpr ⟨by linarith, by linarith⟩)).2
  rwa [pow_zero] at near

/-- A number and what it is short of one are one together. -/
theorem exact_add_complement (unit : IsUnit x) : exact (x + (1 - x)) = 1 := by
  have sum := rounds_add unit.finite unit.complement.finite
  have near := abs_le.mp unit.abs_complement_sub_le
  rw [sum.exact_eq]
  exact roundTo_eq_one (by linarith) (by linarith)

end IsUnit

end Starfield
