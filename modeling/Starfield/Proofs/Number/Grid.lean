import Starfield.Proofs.Number.Exact

namespace Starfield

open Float.Model (Format)

/-!
# Steps of a grid

Numbers of a format that are not small stand on a grid that is not fine.  So
two of them are a step of the smaller one apart at least, the number a step
below belongs to the format again, and a factor that is short of one by the
last digit of a mantissa brings every number down, rounded or not.
-/

namespace Exact

variable {format : Format}

theorem spacing_mono {x y : ℚ} (positive : 0 < x) (ordered : x ≤ y) :
    spacing format x ≤ spacing format y := by
  have logs : Int.log 2 x ≤ Int.log 2 y := Int.log_mono_right positive ordered
  unfold spacing
  omega

theorem rounded_le_of_nearest_le {x bound : ℚ} (nonneg : 0 ≤ bound)
    (below : nearest format x ≤ bound) : rounded format x ≤ bound := by
  have end_pos := limit_pos format
  exact max_le (by linarith) ((min_le_right _ _).trans below)

theorem le_rounded_of_le_nearest {x bound : ℚ} (inside : bound ≤ limit format)
    (above : bound ≤ nearest format x) : bound ≤ rounded format x :=
  le_max_of_le_right (le_min inside above)

/-- Inside the ends of the format a rounded number is the nearest one. -/
theorem rounded_eq_nearest {x : ℚ} (inside : |nearest format x| ≤ limit format) :
    rounded format x = nearest format x := by
  rcases abs_le.mp inside with ⟨low, high⟩
  rw [rounded, min_eq_right high, max_eq_right low]

/-- What is rounded into the inside of the format was not cut off. -/
theorem rounded_eq_nearest_of_lt {x : ℚ} (inside : |rounded format x| < limit format) :
    rounded format x = nearest format x := by
  rcases abs_lt.mp inside with ⟨low, high⟩
  have within : min (limit format) (nearest format x) < limit format :=
    (le_max_right _ _).trans_lt high
  have above : -limit format < min (limit format) (nearest format x) :=
    (lt_max_iff.mp low).resolve_left (lt_irrefl _)
  apply rounded_eq_nearest
  rw [abs_le]
  exact ⟨(above.trans_le (min_le_right _ _)).le, ((min_lt_iff.mp within).resolve_left (lt_irrefl _)).le⟩

theorem rounded_neg (x : ℚ) : rounded format (-x) = -rounded format x := by
  have ends : -limit format ≤ limit format := by linarith [limit_pos format]
  unfold rounded
  rw [nearest_neg, max_min_distrib_left, max_eq_right ends, ← min_neg_neg, neg_neg, ← max_neg_neg]

theorem abs_rounded (x : ℚ) : |rounded format x| = rounded format |x| := by
  rcases le_total 0 x with nonneg | nonpos
  · rw [abs_of_nonneg nonneg, abs_of_nonneg (le_rounded .zero nonneg)]
  · rw [abs_of_nonpos nonpos, abs_of_nonpos (rounded_le .zero nonpos), rounded_neg]

namespace Representable

variable {x y bound : ℚ}

/-- Every number of the format is a multiple of the finest step. -/
theorem exists_units (member : Representable format x) :
    Exists fun count : ℤ => x = count * 2 ^ format.minExponent := by
  rcases member.onGrid with ⟨mantissa, exponent, equal, -, least⟩
  refine ⟨mantissa * 2 ^ (exponent - format.minExponent).toNat, ?_⟩
  push_cast
  rw [mul_assoc, ← zpow_natCast, ← zpow_add₀ two_ne_zero, Int.toNat_of_nonneg (by omega),
    sub_add_cancel]
  exact equal

/-- So a sum of two of them that is rounded to nothing is nothing. -/
theorem add_nonpos_of_rounded (member : Representable format x) (other : Representable format y)
    (below : rounded format (x + y) ≤ 0) : x + y ≤ 0 := by
  by_contra positive
  rcases member.exists_units with ⟨count, rfl⟩
  rcases other.exists_units with ⟨more, rfl⟩
  have unit : (0 : ℚ) < 2 ^ format.minExponent := by positivity
  rw [← add_mul, not_le] at positive
  have counted : (1 : ℚ) ≤ count + more := by
    have some : (0 : ℚ) < count + more := (pos_iff_pos_of_mul_pos positive).mpr unit
    have whole : 0 < count + more := by exact_mod_cast some
    exact_mod_cast Int.add_one_le_of_lt whole
  have small : (2 : ℚ) ^ format.minExponent ≤ limit format :=
    (zpow_le_one_of_nonpos₀ one_le_two (minExponent_nonpos format)).trans (one_le_pow₀ one_le_two)
  have above := le_rounded (representable_two_zpow le_rfl small)
    (le_mul_of_one_le_left unit.le counted)
  rw [add_mul] at above
  exact absurd below (not_le.mpr (unit.trans_le above))

/-- A number of the format is a multiple of every step below it. -/
theorem exists_multiple (member : Representable format x) (positive : 0 < bound)
    (above : bound ≤ x) : Exists fun count : ℤ => x = count * 2 ^ spacing format bound := by
  have spaced : spacing format bound ≤ spacing format x := spacing_mono positive above
  have own := member.onGrid_eq (positive.le.trans above)
  unfold Exact.onGrid at own
  refine ⟨toWhole (x / 2 ^ spacing format x) *
    2 ^ (spacing format x - spacing format bound).toNat, ?_⟩
  push_cast
  rw [mul_assoc, ← zpow_natCast, ← zpow_add₀ two_ne_zero, Int.toNat_of_nonneg (by omega),
    sub_add_cancel]
  exact own.symm

theorem add_step_le (member : Representable format x) (other : Representable format y)
    (positive : 0 < bound) (above : bound ≤ x) (apart : x < y) :
    x + 2 ^ spacing format bound ≤ y := by
  rcases member.exists_multiple positive above with ⟨count, rfl⟩
  rcases other.exists_multiple positive (above.trans apart.le) with ⟨more, rfl⟩
  have step : (0 : ℚ) < 2 ^ spacing format bound := by positivity
  have counted : count + 1 ≤ more := by
    exact_mod_cast (mul_lt_mul_iff_left₀ step).mp apart
  calc count * 2 ^ spacing format bound + 2 ^ spacing format bound
      = ((count + 1 : ℤ) : ℚ) * 2 ^ spacing format bound := by push_cast; ring
    _ ≤ more * 2 ^ spacing format bound := by gcongr

/-- A number has at least one step of its grid, and no more than fit into a
mantissa. -/
theorem exists_steps (member : Representable format x) (positive : 0 < x) :
    Exists fun count : ℕ => x = count * 2 ^ spacing format x ∧ 0 < count ∧
      count < 2 ^ format.mantissaBits := by
  rcases member.exists_multiple positive le_rfl with ⟨count, equal⟩
  have step : (0 : ℚ) < 2 ^ spacing format x := by positivity
  have quotient : x / 2 ^ spacing format x = count := (div_eq_iff step.ne').mpr equal
  have above : 0 < count := by
    have share : 0 < x / 2 ^ spacing format x := div_pos positive step
    rw [quotient] at share
    exact_mod_cast share
  have below := div_spacing_lt format x
  rw [quotient] at below
  lift count to ℕ using above.le
  exact ⟨count, by exact_mod_cast equal, by exact_mod_cast above, by exact_mod_cast below⟩

theorem sub_step (member : Representable format x) (positive : 0 < x) :
    Representable format (x - 2 ^ spacing format x) := by
  rcases member.exists_steps positive with ⟨count, equal, some, small⟩
  have step : (0 : ℚ) < 2 ^ spacing format x := by positivity
  have one : (1 : ℚ) ≤ count := by exact_mod_cast some
  refine ⟨⟨(count - 1 : ℕ), spacing format x, ?_, ?_, le_max_right _ _⟩, ?_⟩
  · push_cast [Nat.cast_sub some]
    rw [sub_mul, one_mul, ← equal]
  · rw [Nat.abs_cast]
    exact_mod_cast (Nat.sub_le _ _).trans_lt small
  · have least : 2 ^ spacing format x ≤ x := by
      conv_rhs => rw [equal]
      exact le_mul_of_one_le_left step.le one
    rw [abs_of_nonneg (by linarith)]
    have inside := (le_abs_self x).trans member.bounded
    linarith

/-- A difference on the finest grid is not rounded. -/
theorem sub_of_finest (member : Representable format x) (other : Representable format y)
    (positive : 0 < x - y) (inside : x - y ≤ limit format)
    (finest : spacing format (x - y) = format.minExponent) : Representable format (x - y) := by
  rcases member.exists_units with ⟨count, equal⟩
  rcases other.exists_units with ⟨less, otherEqual⟩
  have unit : (0 : ℚ) < 2 ^ format.minExponent := by positivity
  have counted : x - y = ((count - less : ℤ) : ℚ) * 2 ^ format.minExponent := by
    push_cast
    rw [sub_mul, ← equal, ← otherEqual]
  have quotient : (x - y) / 2 ^ format.minExponent = ((count - less : ℤ) : ℚ) :=
    (div_eq_iff unit.ne').mpr counted
  have below := div_spacing_lt format (x - y)
  have above : (0 : ℚ) < (x - y) / 2 ^ format.minExponent := div_pos positive unit
  rw [finest, quotient] at below
  rw [quotient] at above
  refine ⟨⟨count - less, format.minExponent, counted, ?_, le_rfl⟩, ?_⟩
  · rw [abs_of_pos (by exact_mod_cast above)]
    exact_mod_cast below
  · rwa [abs_of_pos positive]

/-- Nor is that of a number and one that is at most double: it has no more steps
than the smaller one. -/
theorem sub_of_le_double (member : Representable format x) (other : Representable format y)
    (positive : 0 < y) (ordered : y ≤ x) (close : x ≤ 2 * y) : Representable format (x - y) := by
  rcases member.exists_multiple positive ordered with ⟨count, equal⟩
  rcases other.exists_steps positive with ⟨steps, otherEqual, -, small⟩
  have step : (0 : ℚ) < 2 ^ spacing format y := by positivity
  have counted : x - y = ((count - steps : ℤ) : ℚ) * 2 ^ spacing format y := by
    push_cast
    rw [sub_mul, ← equal, ← otherEqual]
  have nonneg : 0 ≤ count - steps := by
    have lower : 0 ≤ ((count - steps : ℤ) : ℚ) * 2 ^ spacing format y := by linarith
    exact_mod_cast nonneg_of_mul_nonneg_left lower step
  have few : count - steps ≤ steps := by
    have upper : ((count - steps : ℤ) : ℚ) * 2 ^ spacing format y ≤
        ((steps : ℤ) : ℚ) * 2 ^ spacing format y := by
      rw [Int.cast_natCast, ← counted, ← otherEqual]
      linarith
    exact_mod_cast le_of_mul_le_mul_right upper step
  refine ⟨⟨count - steps, spacing format y, counted, ?_, le_max_right _ _⟩, ?_⟩
  · rw [abs_of_nonneg nonneg]
    exact few.trans_lt (by exact_mod_cast small)
  · rw [abs_of_nonneg (by linarith)]
    have inside := (le_abs_self y).trans other.bounded
    linarith

end Representable

/-- Down to the power of two below a number, the grid stays as it is. -/
theorem spacing_eq_of_le {x y : ℚ}
    (above : 2 ^ format.mantissaBitsWithoutImplicit * 2 ^ spacing format x ≤ y) (below : y ≤ x) :
    spacing format y = spacing format x := by
  have positive : 0 < y := lt_of_lt_of_le (by positivity) above
  refine le_antisymm (spacing_mono positive below) ?_
  have log : format.mantissaBitsWithoutImplicit + spacing format x ≤ Int.log 2 y := by
    apply (Int.zpow_le_iff_le_log (by decide) positive).mp
    rwa [zpow_add₀ (by norm_num), zpow_natCast, Nat.cast_ofNat]
  conv_rhs => unfold spacing
  unfold Format.mantissaBits
  omega

/-- What is more than half a step below a number rounds to another one, if the
grid is the same there. -/
theorem rounded_lt_of_lt_half_step {x y : ℚ} (member : Representable format x)
    (above : 2 ^ format.mantissaBitsWithoutImplicit * 2 ^ spacing format x < x)
    (below : y < x - 2 ^ spacing format x / 2) : rounded format y < x := by
  have positive : 0 < x := lt_of_le_of_lt (by positivity) above
  rcases member.exists_steps positive with ⟨steps, equal, some, -⟩
  set unit : ℚ := 2 ^ spacing format x with unit_eq
  have unit_pos : 0 < unit := by positivity
  have stepDown : x - unit < x := sub_lt_self x unit_pos
  rcases le_or_gt y (x - unit) with far | near
  · exact (rounded_le (member.sub_step positive) far).trans_lt stepDown
  have leading : 2 ^ format.mantissaBitsWithoutImplicit + 1 ≤ steps := by
    rw [equal] at above
    exact_mod_cast lt_of_mul_lt_mul_right above unit_pos.le
  have leading : (2 : ℚ) ^ format.mantissaBitsWithoutImplicit + 1 ≤ steps := by exact_mod_cast leading
  have bottom : 2 ^ format.mantissaBitsWithoutImplicit * unit ≤ x - unit := by
    have scaled : (2 ^ format.mantissaBitsWithoutImplicit + 1) * unit ≤ steps * unit := by gcongr
    rw [← equal] at scaled
    linarith
  have spaced := spacing_eq_of_le (bottom.trans near.le) (by linarith)
  have nonneg : 0 ≤ x - unit := le_trans (by positivity) bottom
  refine (rounded_le_of_nearest_le nonneg ?_).trans_lt stepDown
  have quotient : y / unit < ((steps - 1 : ℕ) : ℤ) + 1 / 2 := by
    push_cast [Nat.cast_sub some]
    rw [div_lt_iff₀ unit_pos]
    linarith
  have counted : (toWhole (y / unit) : ℚ) ≤ steps - 1 := by
    have whole : (toWhole (y / unit) : ℚ) ≤ ((steps - 1 : ℕ) : ℤ) := by
      exact_mod_cast toWhole_le_of_lt quotient
    push_cast [Nat.cast_sub some] at whole
    exact whole
  rw [nearest, if_pos (nonneg.trans near.le), onGrid, spaced, ← unit_eq]
  calc toWhole (y / unit) * unit ≤ (steps - 1) * unit := by gcongr
    _ = x - unit := by rw [sub_mul, one_mul, ← equal]

/-- The factors below one that a mantissa can tell from it bring a number down
by half a step at least.  Of a power of two that is a whole step, because the
grid is finer below it. -/
theorem rounded_mul_lt {x : ℚ} {count : ℕ} (member : Representable format x) (positive : 0 < x)
    (coarse : spacing format x ≠ format.minExponent) (small : count < 2 ^ format.mantissaBits) :
    rounded format (count / 2 ^ format.mantissaBits * x) < x := by
  have whole : (0 : ℚ) < 2 ^ format.mantissaBits := by positivity
  have half : (2 : ℚ) ^ format.mantissaBits = 2 * 2 ^ format.mantissaBitsWithoutImplicit := by
    rw [← pow_succ', Nat.add_comm]
    rfl
  have short : (count : ℚ) + 1 ≤ 2 ^ format.mantissaBits := by exact_mod_cast small
  have most : 2 ^ format.mantissaBitsWithoutImplicit * 2 ^ spacing format x ≤ x :=
    (le_div_iff₀ (by positivity)).mp (le_div_spacing positive coarse)
  have below : count / 2 ^ format.mantissaBits * x < x :=
    mul_lt_of_lt_one_left positive ((div_lt_one whole).mpr (by linarith))
  rcases most.eq_or_lt with power | above
  · have exactly : Representable format (count / 2 ^ format.mantissaBits * x) := by
      refine ⟨⟨count, spacing format x - 1, ?_, by rw [Nat.abs_cast]; exact_mod_cast small, ?_⟩, ?_⟩
      · conv_lhs => rw [← power, half]
        rw [zpow_sub_one₀ two_ne_zero, Int.cast_natCast]
        field_simp
      · have least : format.minExponent ≤ spacing format x := le_max_right _ _
        omega
      · rw [abs_of_nonneg (by positivity)]
        exact below.le.trans ((le_abs_self x).trans member.bounded)
    rwa [exactly.rounded_eq]
  · refine rounded_lt_of_lt_half_step member above ?_
    have share : (count + 1) / 2 ^ format.mantissaBits * x ≤ x :=
      mul_le_of_le_one_left positive.le ((div_le_one whole).mpr short)
    have last : 2 ^ spacing format x / 2 < x / 2 ^ format.mantissaBits := by
      rw [half, lt_div_iff₀ (by positivity)]
      linarith
    have parts : (count + 1) / 2 ^ format.mantissaBits * x =
        count / 2 ^ format.mantissaBits * x + x / 2 ^ format.mantissaBits := by ring
    linarith

/-! ## How far rounding moves a number -/

theorem abs_toWhole_sub_le (x : ℚ) : |toWhole x - x| ≤ 1 / 2 := by
  have split := Int.floor_add_fract x
  have low := Int.fract_nonneg x
  have high := Int.fract_lt_one x
  rw [abs_le]
  unfold toWhole
  split_ifs with below above
  · constructor <;> linarith
  · push_cast
    constructor <;> linarith
  · have half : Int.fract x = 1 / 2 := le_antisymm (not_lt.mp above) (not_lt.mp below)
    rcases Int.emod_two_eq_zero_or_one ⌊x⌋ with even | odd
    · rw [even]
      push_cast
      constructor <;> linarith
    · rw [odd]
      push_cast
      constructor <;> linarith

theorem abs_onGrid_sub_le (x : ℚ) : |onGrid format x - x| ≤ 2 ^ spacing format x / 2 := by
  have step : (0 : ℚ) < 2 ^ spacing format x := by positivity
  calc |onGrid format x - x|
      = |toWhole (x / 2 ^ spacing format x) - x / 2 ^ spacing format x| * 2 ^ spacing format x := by
        conv_rhs => rw [← abs_of_pos step, ← abs_mul, sub_mul, abs_of_pos step]
        rw [div_mul_cancel₀ _ step.ne']
        rfl
    _ ≤ 1 / 2 * 2 ^ spacing format x := by
        gcongr
        exact abs_toWhole_sub_le _
    _ = 2 ^ spacing format x / 2 := by ring

/-- Half a step of the grid around a bound. -/
theorem abs_nearest_sub_le {x bound : ℚ} (within : |x| ≤ bound) :
    |nearest format x - x| ≤ 2 ^ spacing format bound / 2 := by
  have moved {y : ℚ} (nonneg : 0 ≤ y) (below : y ≤ bound) :
      |onGrid format y - y| ≤ 2 ^ spacing format bound / 2 := by
    rcases nonneg.eq_or_lt with zero | some
    · rw [← zero, onGrid_zero, sub_zero, abs_zero]
      positivity
    · refine (abs_onGrid_sub_le y).trans ?_
      have spaced : (2 : ℚ) ^ spacing format y ≤ 2 ^ spacing format bound :=
        zpow_le_zpow_right₀ one_le_two (spacing_mono some below)
      linarith
  unfold nearest
  split_ifs with nonneg
  · exact moved nonneg ((le_abs_self x).trans within)
  · have same : -onGrid format (-x) - x = -(onGrid format (-x) - -x) := by ring
    rw [same, abs_neg]
    exact moved (by linarith) ((neg_le_abs x).trans within)

/-- Above the finest grid that is a small part of the bound. -/
theorem abs_nearest_sub_le_div {x bound : ℚ} (positive : 0 < bound)
    (coarse : spacing format bound ≠ format.minExponent) (within : |x| ≤ bound) :
    |nearest format x - x| ≤ bound / 2 ^ format.mantissaBits := by
  refine (abs_nearest_sub_le within).trans ?_
  have most : 2 ^ format.mantissaBitsWithoutImplicit * 2 ^ spacing format bound ≤ bound :=
    (le_div_iff₀ (by positivity)).mp (le_div_spacing positive coarse)
  have double : (2 : ℚ) ^ format.mantissaBits = 2 * 2 ^ format.mantissaBitsWithoutImplicit := by
    rw [← pow_succ', Nat.add_comm]
    rfl
  rw [double, div_le_div_iff₀ two_pos (by positivity)]
  linarith

/-- A bound of the format itself keeps a number away from the ends, where it
would be moved further. -/
theorem abs_rounded_sub_le_div {x bound : ℚ} (member : Representable format bound)
    (positive : 0 < bound) (coarse : spacing format bound ≠ format.minExponent)
    (within : |x| ≤ bound) : |rounded format x - x| ≤ bound / 2 ^ format.mantissaBits := by
  have inside : |nearest format x| ≤ limit format := by
    have bounds := abs_le.mp within
    have low : nearest format (-bound) ≤ nearest format x := nearest_mono bounds.1
    have high : nearest format x ≤ nearest format bound := nearest_mono bounds.2
    rw [member.neg.nearest_eq] at low
    rw [member.nearest_eq] at high
    exact (abs_le.mpr ⟨low, high⟩).trans ((le_abs_self bound).trans member.bounded)
  rw [rounded_eq_nearest inside]
  exact abs_nearest_sub_le_div positive coarse within

end Exact

end Starfield
