import Starfield.Proofs.Number.Conversion
import Starfield.Proofs.Number.Grid
import Starfield.Proofs.Number.Shortest

namespace Starfield

open Float.Model (Format)

/-!
# Scaling

A power of two moves numbers and the grid around them by the same factor, as
long as the grid is not the finest one.  So scaling by one commutes with
rounding.  Any other factor costs a rounding, which is a small part of the
result, and so does taking away what is far smaller than a step.
-/

namespace Exact

variable {format : Format}

theorem log_mul_two_pow {x : ℚ} (positive : 0 < x) (count : ℕ) :
    Int.log 2 (x * 2 ^ count) = Int.log 2 x + count := by
  have power : (0 : ℚ) < 2 ^ count := by positivity
  apply le_antisymm
  · apply Int.lt_add_one_iff.mp
    apply (Int.lt_zpow_iff_log_lt (by decide) (mul_pos positive power)).mp
    rw [add_right_comm, zpow_add₀ (by decide), zpow_natCast, Nat.cast_two]
    exact mul_lt_mul_of_pos_right (Int.lt_zpow_succ_log_self (by decide) x) power
  · apply (Int.zpow_le_iff_le_log (by decide) (mul_pos positive power)).mp
    rw [zpow_add₀ (by decide), zpow_natCast, Nat.cast_two]
    exact mul_le_mul_of_nonneg_right (Int.zpow_log_le_self (by decide) positive) power.le

theorem nearest_mul_two_pow {x : ℚ} (positive : 0 < x)
    (coarse : spacing format x ≠ format.minExponent) (count : ℕ) :
    nearest format (x * 2 ^ count) = nearest format x * 2 ^ count := by
  have spaced : spacing format (x * 2 ^ count) = spacing format x + count := by
    unfold spacing at *
    rw [log_mul_two_pow positive]
    omega
  have power : (0 : ℚ) < 2 ^ count := by positivity
  rw [nearest, nearest, if_pos positive.le, if_pos (mul_pos positive power).le, onGrid, onGrid, spaced,
    zpow_add₀ two_ne_zero, zpow_natCast, mul_div_mul_right _ _ power.ne', mul_assoc]

/-- What a rounding reaches, the scaled rounding reaches too, or its end. -/
theorem le_rounded_mul_two_pow {x bound : ℚ} (positive : 0 < x)
    (coarse : spacing format x ≠ format.minExponent) (nonneg : 0 < bound)
    (above : bound ≤ rounded format x) (count : ℕ) :
    min (limit format) (bound * 2 ^ count) ≤ rounded format (x * 2 ^ count) := by
  have room := limit_pos format
  have reached : bound ≤ nearest format x := by
    rcases le_max_iff.mp above with low | high
    · linarith
    · exact high.trans (min_le_right _ _)
  refine le_rounded_of_le_nearest (min_le_left _ _) ((min_le_right _ _).trans ?_)
  rw [nearest_mul_two_pow positive coarse]
  gcongr

/-- Taking away a quarter of a step, or less, is undone by rounding. -/
theorem rounded_sub_of_le_quarter {x d : ℚ} (member : Representable format x) (positive : 0 < x)
    (coarse : spacing format x ≠ format.minExponent) (some : 0 < d)
    (tiny : d ≤ 2 ^ spacing format x / 4) : rounded format (x - d) = x := by
  rcases member.exists_steps positive with ⟨count, equal, counted, small⟩
  have leading := le_div_spacing positive coarse
  have least : format.minExponent ≤ spacing format x := le_max_right _ _
  set unit : ℚ := 2 ^ spacing format x with unit_eq
  have unit_pos : 0 < unit := by positivity
  rw [(div_eq_iff unit_pos.ne').mpr equal] at leading
  have one : (1 : ℚ) ≤ count := by exact_mod_cast counted
  have share : 0 < d / unit ∧ d / unit ≤ 1 / 4 :=
    ⟨div_pos some unit_pos, (div_le_iff₀ unit_pos).mpr (by linarith)⟩
  have moved : x - d = (count - d / unit) * 2 ^ spacing format x := by
    rw [← unit_eq, sub_mul, div_mul_cancel₀ _ unit_pos.ne', ← equal]
  have onto : onGrid format (x - d) = x := by
    rw [moved]
    refine Eq.trans ?_ equal.symm
    by_cases power : count = 2 ^ format.mantissaBitsWithoutImplicit
    · exact onGrid_of_below_power power (lt_of_le_of_ne least (Ne.symm coarse)) (by linarith)
        (by linarith)
    · have more : (2 : ℚ) ^ format.mantissaBitsWithoutImplicit + 1 ≤ count := by
        exact_mod_cast lt_of_le_of_ne (by exact_mod_cast leading) (Ne.symm power)
      exact onGrid_of_near counted small least (Or.inr (by linarith)) (Or.inl (by linarith))
        (Or.inl (by linarith))
  have nonneg : 0 ≤ x - d := by
    rw [moved]
    exact mul_nonneg (by linarith) unit_pos.le
  have kept : nearest format (x - d) = nearest format x := by
    rw [member.nearest_eq, nearest, if_pos nonneg, onto]
  rw [rounded, kept]
  exact member.rounded_eq

end Exact

section Steps

/-- The step of single precision above a part of one. -/
theorem spacing_single {n : ℕ} (coarse : n ≤ 126) :
    Exact.spacing (Binary.format Float32) (1 / 2 ^ n) = -((n + 23 : ℕ) : ℤ) := by
  have log : Int.log 2 (1 / 2 ^ n : ℚ) = -(n : ℤ) := by
    have power : (1 / 2 ^ n : ℚ) = ((2 : ℕ) : ℚ) ^ (-(n : ℤ)) := by
      rw [zpow_neg, zpow_natCast, one_div, Nat.cast_two]
    rw [power, Int.log_zpow (by decide)]
  have bits : (Binary.format Float32).mantissaBits = 24 := rfl
  have least : (Binary.format Float32).minExponent = -149 := rfl
  unfold Exact.spacing
  omega

theorem exists_multiple_single {x : ℚ} {n : ℕ} (value : IsValue Float32 x) (coarse : n ≤ 126)
    (above : 1 / 2 ^ n ≤ x) : Exists fun count : ℤ => x = count / 2 ^ (n + 23) := by
  rcases value.exists_multiple (by positivity) above with ⟨count, equal⟩
  refine ⟨count, equal.trans ?_⟩
  rw [spacing_single coarse, zpow_neg, zpow_natCast, div_eq_mul_inv]

/-- The next number is a step away at least. -/
theorem add_step_le_single {x y : ℚ} {n : ℕ} (value : IsValue Float32 x) (other : IsValue Float32 y)
    (coarse : n ≤ 126) (above : 1 / 2 ^ n ≤ x) (apart : x < y) : x + 1 / 2 ^ (n + 23) ≤ y := by
  have next := value.add_step_le other (by positivity) above apart
  rwa [spacing_single coarse, zpow_neg, zpow_natCast, ← one_div] at next

end Steps

section Products

variable {x y : Float32}

/-- The grid around a number of single precision that is not tiny is not the
finest one. -/
theorem spacing_ne_of_le {x : ℚ} {n : ℕ} (coarse : n ≤ 125) (large : 1 / 2 ^ n ≤ x) :
    Exact.spacing (Binary.format Float32) x ≠ (Binary.format Float32).minExponent := by
  have high := le_spacing_single large
  have least : (Binary.format Float32).minExponent = -149 := rfl
  omega

theorem spacing_ne_of_large {x : ℚ} (large : 1 / 2 ≤ x) :
    Exact.spacing (Binary.format Float32) x ≠ (Binary.format Float32).minExponent :=
  spacing_ne_of_le (n := 1) (by decide) (by rwa [pow_one])

/-- A finite result is the nearest number. -/
theorem Rounds.exact_eq_nearest {target : ℚ} (rounds : Rounds x target) (finite : IsFinite x) :
    exact x = Exact.nearest (Binary.format Float32) target := by
  have inside := finite.abs_exact_lt
  rw [rounds.exact_eq] at inside
  exact rounds.exact_eq.trans (Exact.rounded_eq_nearest_of_lt inside)

/-- A finite result is near to what it rounds, measured by any bound of it that
is not tiny. -/
theorem Rounds.abs_sub_le_of_coarse {target bound : ℚ} {n : ℕ} (rounds : Rounds x target)
    (finite : IsFinite x) (coarse : n ≤ 125) (large : 1 / 2 ^ n ≤ bound)
    (within : |target| ≤ bound) : |exact x - target| ≤ bound / 2 ^ 24 := by
  have some : 0 < bound := lt_of_lt_of_le (by positivity) large
  rw [rounds.exact_eq_nearest finite]
  exact Exact.abs_nearest_sub_le_div some (spacing_ne_of_le coarse large) within

theorem Rounds.abs_sub_le {target bound : ℚ} (rounds : Rounds x target) (finite : IsFinite x)
    (large : 1 / 2 ≤ bound) (within : |target| ≤ bound) :
    |exact x - target| ≤ bound / 2 ^ 24 :=
  rounds.abs_sub_le_of_coarse (n := 1) finite (by decide) (by rwa [pow_one]) within

/-- Below a power of two the steps are half as wide as above, so there half as
much is lost. -/
theorem Rounds.abs_sub_le_two_pow {target : ℚ} {n : ℕ} (rounds : Rounds x target) (small : n ≤ 127)
    (within : |target| ≤ 2 ^ n) : IsFinite x ∧ |exact x - target| ≤ 2 ^ n / 2 ^ 25 := by
  have finite : IsFinite x := (rounds.within_two_pow (by omega) within).1
  refine ⟨finite, ?_⟩
  rcases within.lt_or_eq with below | end_eq
  · rcases eq_or_ne target 0 with zero | nonzero
    · rw [rounds.exact_eq, zero, roundTo, Exact.Representable.zero.rounded_eq, sub_zero, abs_zero]
      positivity
    · have log : Int.log 2 |target| < n :=
        (Int.lt_zpow_iff_log_lt (by decide) (abs_pos.mpr nonzero)).mp
          (by rwa [Nat.cast_two, zpow_natCast])
      have bits : (Binary.format Float32).mantissaBits = 24 := rfl
      have least : (Binary.format Float32).minExponent = -149 := rfl
      have spaced : Exact.spacing (Binary.format Float32) |target| ≤ n - 24 := by
        unfold Exact.spacing
        omega
      rw [rounds.exact_eq_nearest finite]
      calc |Exact.nearest (Binary.format Float32) target - target|
          ≤ 2 ^ Exact.spacing (Binary.format Float32) |target| / 2 :=
            Exact.abs_nearest_sub_le le_rfl
        _ ≤ 2 ^ (n - 24 : ℤ) / 2 := by
            have step : (2 : ℚ) ^ Exact.spacing (Binary.format Float32) |target| ≤ 2 ^ (n - 24 : ℤ) :=
              zpow_le_zpow_right₀ one_le_two spaced
            linarith
        _ = 2 ^ n / 2 ^ 25 := by
            rw [zpow_sub₀ two_ne_zero, zpow_natCast]
            norm_num
            ring
  · have value : IsValue Float32 |target| := end_eq ▸ isValue_two_pow (by omega)
    have signed : IsValue Float32 target := by
      rcases abs_choice target with same | negated
      · rwa [same] at value
      · rw [negated] at value
        exact neg_neg target ▸ value.neg
    rw [rounds.exact_eq_of_isValue signed, sub_self, abs_zero]
    positivity

/-- A finite number is not rounded beyond the double of another one, whether
that double is a number or not. -/
theorem Rounds.le_two_mul {target : ℚ} (rounds : Rounds x target) (finite : IsFinite x)
    (positive : 0 < exact y) (below : target ≤ 2 * exact y) : exact x ≤ 2 * exact y := by
  rcases le_or_gt (2 * exact y) (limit Float32) with room | beyond
  · have double : exact y * 2 ^ 1 = 2 * exact y := by ring
    have value : IsValue Float32 (exact y * 2 ^ 1) :=
      (isValue_exact y).mul_two_pow (by rwa [double, abs_of_pos (by linarith)])
    exact rounds.le (double ▸ value) below
  · exact ((le_abs_self _).trans finite.abs_exact_lt.le).trans beyond.le

/-- A finite product with a power of two is exact. -/
theorem exact_mul_two_pow {count : ℕ} (finite : IsFinite x) (nonneg : 0 ≤ exact x)
    (scaleFinite : IsFinite y) (power : exact y = 2 ^ count) (inside : IsFinite (x * y)) :
    exact (x * y) = exact x * 2 ^ count := by
  have product := rounds_mul finite scaleFinite
  rw [power] at product
  have size : 0 ≤ exact x * 2 ^ count := by positivity
  by_cases small : exact x * 2 ^ count ≤ limit Float32
  · exact product.exact_eq_of_isValue
      ((isValue_exact x).mul_two_pow (by rwa [abs_of_nonneg size]))
  · have beyond := product.ge (Exact.representable_limit _) (not_le.mp small).le
    exact absurd (abs_lt.mp inside.abs_exact_lt).2 beyond.not_gt

end Products

end Starfield
