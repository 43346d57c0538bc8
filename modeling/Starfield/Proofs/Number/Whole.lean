import Starfield.Number.Rounding
import Starfield.Proofs.Number.Grid
import Starfield.Proofs.Number.Infinite
import Starfield.Proofs.Number.Truncation

namespace Starfield

open Float.Model (Format UnpackedFloat)

/-!
# The nearest whole number

Rounding to a whole number looks at the fraction behind the whole part.  The
fraction of a number is one of the same width, so nothing is lost by the
subtraction that finds it.
-/

namespace Exact

variable {format : Format}

theorem Representable.fract {x : ℚ} (member : Representable format x) (nonneg : 0 ≤ x) :
    Representable format (Int.fract x) := by
  have inside : |Int.fract x| ≤ limit format := by
    rw [abs_of_nonneg (Int.fract_nonneg x)]
    exact (Int.fract_lt_one x).le.trans (one_le_pow₀ one_le_two)
  rcases member with ⟨⟨mantissa, exponent, equal, small, least⟩, bounded⟩
  have power : (0 : ℚ) < 2 ^ exponent := by positivity
  have positive : 0 ≤ mantissa := by
    rw [equal] at nonneg
    exact_mod_cast nonneg_of_mul_nonneg_left nonneg power
  lift mantissa to ℕ using positive
  rcases le_or_gt 0 exponent with whole | broken
  · lift exponent to ℕ using whole
    have integral : x = ((mantissa * 2 ^ exponent : ℕ) : ℚ) := by
      push_cast
      exact_mod_cast equal
    rw [integral, Int.fract_natCast]
    exact .zero
  · have split : x = mantissa / ((2 ^ (-exponent).toNat : ℕ) : ℚ) := by
      rw [equal, Nat.cast_pow, Nat.cast_two, ← zpow_natCast, Int.toNat_of_nonneg (by omega), zpow_neg,
        div_inv_eq_mul, Int.cast_natCast]
    have rest : Int.fract x = ((mantissa % 2 ^ (-exponent).toNat : ℕ) : ℤ) * 2 ^ exponent := by
      rw [split, Int.fract_div_natCast_eq_div_natCast_mod, Nat.cast_pow, Nat.cast_two,
        ← zpow_natCast, Int.toNat_of_nonneg (by omega), zpow_neg, div_inv_eq_mul, Int.cast_natCast]
    refine ⟨⟨_, exponent, rest, ?_, least⟩, inside⟩
    rw [Nat.abs_cast] at small ⊢
    exact lt_of_le_of_lt (by exact_mod_cast Nat.mod_le _ _) small

/-- From the length of a mantissa on, numbers of the format are whole. -/
theorem Representable.eq_floor {x : ℚ} (member : Representable format x)
    (large : 2 ^ format.mantissaBitsWithoutImplicit ≤ x) : x = ⌊x⌋ := by
  have spaced : 0 ≤ spacing format (2 ^ format.mantissaBitsWithoutImplicit) := by
    have power : (2 : ℚ) ^ format.mantissaBitsWithoutImplicit =
        ((2 : ℕ) : ℚ) ^ (format.mantissaBitsWithoutImplicit : ℤ) := by
      rw [zpow_natCast, Nat.cast_two]
    unfold spacing Format.mantissaBits
    rw [power, Int.log_zpow (by decide)]
    omega
  rcases member.exists_multiple (by positivity) large with ⟨count, equal⟩
  rcases Int.eq_ofNat_of_zero_le spaced with ⟨step, step_eq⟩
  have integral : x = ((count * 2 ^ step : ℤ) : ℚ) := by
    rw [equal, step_eq]
    push_cast
    rfl
  rw [integral, Int.floor_intCast]

end Exact

/-! ## Double precision -/

/-- Whole numbers up to `2 ^ 52` are numbers of double precision. -/
theorem isValue_double_natCast {n : ℕ} (small : n ≤ 2 ^ 52) : IsValue Float n := by
  refine ⟨⟨n, 0, by simp, ?_, by decide⟩, ?_⟩
  · rw [Nat.abs_cast]
    exact_mod_cast small.trans_lt (by decide)
  · have bound : (n : ℚ) ≤ 2 ^ 52 := by exact_mod_cast small
    change |(n : ℚ)| ≤ 2 ^ 1024
    rw [Nat.abs_cast]
    exact bound.trans (pow_le_pow_right₀ one_le_two (by decide))

theorem rounds_toFloat (n : UInt64) : Rounds n.toFloat n.toNat := by
  have arrived := @Exact.arrives_normalize (Binary.format Float) n.toNat 0 .positive
  rw [zpow_zero, mul_one, Int.cast_natCast] at arrived
  exact rounds_pack arrived

theorem double_abs_spec {x : Float} (finite : IsFinite x) :
    IsDefined x.abs ∧ exact x.abs = |exact x| := by
  have arrived := (sound x).abs.arrives ((Exact.isFinite_abs _).trans finite)
  rw [Exact.value_abs] at arrived
  have magnitude : Rounds x.abs |exact x| := rounds_pack arrived
  exact ⟨magnitude.defined, magnitude.exact_eq_of_isValue (isValue_exact x).abs⟩

theorem exact_double_half : exact (0.5 : Float) = 1 / 2 := by
  rw [exact_of_unpack (u := .finite .positive 4503599627370496 (-53) (by decide)) rfl]
  norm_num [Exact.value, Exact.signed]

theorem exact_double_one : exact (1 : Float) = 1 := by
  rw [exact_of_unpack (u := .finite .positive 4503599627370496 (-52) (by decide)) rfl]
  norm_num [Exact.value, Exact.signed]

namespace Double

/-- The least number without a fraction behind it. -/
theorem exact_wholeFrom : exact (4503599627370496 : Float) = 2 ^ 52 := by
  rw [exact_of_unpack (u := .finite .positive 4503599627370496 0 (by decide)) rfl]
  norm_num [Exact.value, Exact.signed]

/-- Below it, the whole part is found by truncation. -/
theorem exact_whole {x : Float} (nonneg : 0 ≤ exact x) (small : exact x < 2 ^ 52) :
    IsFinite x.toUInt64.toFloat ∧ exact x.toUInt64.toFloat = ⌊exact x⌋ ∧ ⌊exact x⌋₊ < 2 ^ 52 := by
  have below : ⌊exact x⌋₊ < 2 ^ 52 := by
    rw [Nat.floor_lt nonneg]
    exact_mod_cast small
  have kept : x.toUInt64.toNat = ⌊exact x⌋₊ := by
    rw [toNat_toUInt64, min_eq_left (below.le.trans (by decide))]
  have converted := rounds_toFloat x.toUInt64
  rw [kept] at converted
  have room : (2 : ℚ) ^ 52 < limit Float := pow_lt_pow_right₀ one_lt_two (by decide)
  have inside : |(⌊exact x⌋₊ : ℚ)| < limit Float := by
    rw [Nat.abs_cast]
    exact (Nat.floor_le nonneg).trans_lt (small.trans room)
  have value := converted.spec_of_isValue (isValue_double_natCast below.le) inside
  rw [natCast_floor_eq_intCast_floor nonneg] at value
  exact ⟨value.1, value.2, below⟩

theorem abs_lt_wholeFrom_iff {x : Float} (finite : IsFinite x) (nonneg : 0 ≤ exact x) :
    x.abs < 4503599627370496 ↔ exact x < 2 ^ 52 := by
  rw [lt_iff, (double_abs_spec finite).2, exact_wholeFrom, abs_of_nonneg nonneg]
  exact ⟨fun ordered => ordered.2.2, fun small => ⟨(double_abs_spec finite).1, rfl, small⟩⟩

/-- The fraction that truncation leaves is not rounded, so the comparison with a
half is exact. -/
theorem near_whole_iff {x : Float} (finite : IsFinite x) (nonneg : 0 ≤ exact x)
    (small : exact x < 2 ^ 52) :
    (x - x.toUInt64.toFloat).abs < 0.5 ↔ Int.fract (exact x) < 1 / 2 := by
  have low := Int.fract_nonneg (exact x)
  have high := Int.fract_lt_one (exact x)
  have room : (1 : ℚ) < limit Float := one_lt_pow₀ one_lt_two (by decide)
  rcases exact_whole nonneg small with ⟨wholeFinite, whole_eq, -⟩
  have difference := rounds_sub finite wholeFinite
  rw [whole_eq, Int.self_sub_floor] at difference
  rcases difference.spec_of_isValue ((isValue_exact x).fract nonneg)
    ((abs_of_nonneg low).trans_lt (high.trans room)) with ⟨inside, fraction⟩
  rw [lt_iff, (double_abs_spec inside).2, exact_double_half, fraction, abs_of_nonneg low]
  exact ⟨fun ordered => ordered.2.2, fun less => ⟨(double_abs_spec inside).1, rfl, less⟩⟩

theorem exact_whole_add_one {x : Float} (nonneg : 0 ≤ exact x) (small : exact x < 2 ^ 52) :
    exact (x.toUInt64.toFloat + 1) = ⌊exact x⌋ + 1 := by
  rcases exact_whole nonneg small with ⟨wholeFinite, whole_eq, below⟩
  have sum := rounds_add (y := (1 : Float)) wholeFinite rfl
  have value : IsValue Float (⌊exact x⌋ + 1) := by
    have counted := isValue_double_natCast (n := ⌊exact x⌋₊ + 1) below
    push_cast at counted
    rwa [natCast_floor_eq_intCast_floor nonneg] at counted
  rw [whole_eq, exact_double_one] at sum
  exact sum.exact_eq_of_isValue value

/-- What is not negative becomes the nearest whole number, a half the one above
it. -/
theorem exact_round {x : Float} (finite : IsFinite x) (nonneg : 0 ≤ exact x) :
    exact (round x) = ⌊exact x + 1 / 2⌋ := by
  have split := Int.floor_add_fract (exact x)
  have low := Int.fract_nonneg (exact x)
  have high := Int.fract_lt_one (exact x)
  have upward : ¬x < 0 := by
    rw [double_lt_zero_iff finite.isDefined]
    exact nonneg.not_gt
  unfold round
  simp only [abs_lt_wholeFrom_iff finite nonneg, if_neg upward]
  by_cases small : exact x < 2 ^ 52
  · simp only [if_pos small, near_whole_iff finite nonneg small]
    split_ifs with less
    · have same : ⌊exact x + 1 / 2⌋ = ⌊exact x⌋ :=
        Int.floor_eq_iff.mpr ⟨by linarith, by linarith⟩
      rw [(exact_whole nonneg small).2.1, same]
    · have next : ⌊exact x + 1 / 2⌋ = ⌊exact x⌋ + 1 :=
        Int.floor_eq_iff.mpr ⟨by push_cast; linarith, by push_cast; linarith⟩
      rw [exact_whole_add_one nonneg small, next]
      push_cast
      rfl
  · have whole := (isValue_exact x).eq_floor (not_lt.mp small)
    have same : ⌊exact x + 1 / 2⌋ = ⌊exact x⌋ :=
      Int.floor_eq_iff.mpr ⟨by linarith, by linarith⟩
    rw [if_neg small, same]
    exact whole

end Double

/-! ## Single precision -/

namespace Single

variable {x : Float32}

theorem exact_wholeFrom : exact (8388608 : Float32) = 2 ^ 23 := by
  rw [exact_of_unpack (u := .finite .positive 8388608 0 (by decide)) rfl]
  norm_num [Exact.value, Exact.signed]

theorem abs_lt_wholeFrom_iff (finite : IsFinite x) (nonneg : 0 ≤ exact x) :
    x.abs < 8388608 ↔ exact x < 2 ^ 23 := by
  rw [lt_iff, exact_abs finite, exact_wholeFrom, abs_of_nonneg nonneg]
  exact ⟨fun ordered => ordered.2.2, fun small => ⟨(isFinite_abs finite).isDefined, rfl, small⟩⟩

theorem exact_whole (nonneg : 0 ≤ exact x) (small : exact x < 2 ^ 23) :
    exact x.toUInt32.toFloat32 = ⌊exact x⌋ ∧ ⌊exact x⌋₊ < 2 ^ 23 := by
  have below : ⌊exact x⌋₊ < 2 ^ 23 := by
    rw [Nat.floor_lt nonneg]
    exact_mod_cast small
  have kept : x.toUInt32.toNat = ⌊exact x⌋₊ := by
    rw [toNat_toUInt32, min_eq_left (below.le.trans (by decide))]
  refine ⟨?_, below⟩
  rw [exact_toFloat32 (by rw [kept]; exact below.le.trans (by decide)), kept,
    natCast_floor_eq_intCast_floor nonneg]

theorem truncateSmall_eq (defined : IsDefined x) (nonneg : 0 ≤ exact x) :
    truncateSmall x = x.toUInt32.toFloat32 :=
  if_neg (by rwa [single_lt_zero_iff defined, not_lt])

theorem floor_spec (finite : IsFinite x) (nonneg : 0 ≤ exact x) :
    IsFinite (floor x) ∧ exact (floor x) = ⌊exact x⌋ := by
  unfold floor
  simp only [abs_lt_wholeFrom_iff finite nonneg, truncateSmall_eq finite.isDefined nonneg]
  split_ifs with small above
  · have whole := (exact_whole nonneg small).1
    have below := ((lt_iff _ _).mp above).2.2
    rw [whole] at below
    exact absurd (Int.floor_le _) below.not_ge
  · exact ⟨isFinite_toFloat32 _, (exact_whole nonneg small).1⟩
  · exact ⟨finite, (isValue_exact x).eq_floor (not_lt.mp small)⟩

theorem ceiling_spec (finite : IsFinite x) (nonneg : 0 ≤ exact x) :
    IsFinite (ceiling x) ∧ exact (ceiling x) = ⌈exact x⌉ := by
  have integral (whole : exact x ≤ ⌊exact x⌋) : ⌈exact x⌉ = ⌊exact x⌋ :=
    le_antisymm (Int.ceil_le.mpr whole) (Int.floor_le_ceil _)
  unfold ceiling
  simp only [abs_lt_wholeFrom_iff finite nonneg, truncateSmall_eq finite.isDefined nonneg]
  split_ifs with small below
  · rcases exact_whole nonneg small with ⟨whole, bound⟩
    have broken := ((lt_iff _ _).mp below).2.2
    have sum := rounds_add (y := (1 : Float32)) (isFinite_toFloat32 x.toUInt32) rfl
    have value : IsValue Float32 (⌊exact x⌋ + 1) := by
      have counted := isValue_natCast (n := ⌊exact x⌋₊ + 1)
        ((Nat.succ_le_of_lt bound).trans_lt (by decide))
      push_cast at counted
      rwa [natCast_floor_eq_intCast_floor nonneg] at counted
    have next : ⌈exact x⌉ = ⌊exact x⌋ + 1 := by
      rw [whole] at broken
      refine Int.ceil_eq_iff.mpr ⟨?_, ?_⟩ <;> push_cast
      · linarith
      · exact (Int.lt_floor_add_one _).le
    rw [whole, exact_single_one] at sum
    have exactly := sum.exact_eq_of_isValue value
    refine ⟨isFinite_add (isFinite_toFloat32 _) rfl ?_, ?_⟩
    · have step : Exact.lastStep (Binary.format Float32) = 2 ^ (104 : ℤ) := rfl
      rw [exact_single_one, step]
      norm_num
    · rw [exactly, next]
      push_cast
      rfl
  · have whole := (exact_whole nonneg small).1
    refine ⟨isFinite_toFloat32 _, ?_⟩
    have integer : exact x ≤ ⌊exact x⌋ := by
      rw [lt_iff_exact (isFinite_toFloat32 _).isDefined finite.isDefined, whole, not_lt] at below
      exact below
    rw [whole, integral integer]
  · have whole := (isValue_exact x).eq_floor (not_lt.mp small)
    refine ⟨finite, ?_⟩
    rw [integral whole.le]
    exact whole

end Single

end Starfield
