import Mathlib
import Starfield.Number.Binary

namespace Starfield

open Float.Model (Format)

/-!
# Rounding in exact arithmetic

The numbers of a format lie on grids: between two powers of two they are the
multiples of one smaller power.  Rounding goes to the nearest of them, ties to
the even multiple.  It is stated here for rational numbers and without an
upper end; the end of a format is a limit that rounded numbers are held to.

Everything that is used of rounding later on follows from two facts.  It is
monotone, and it leaves the numbers of the format as they are.  So a number of
the format that bounds an exact result bounds the rounded one too.
-/

namespace Exact

/-- The nearest whole number; of two, the even one. -/
def toWhole (x : ℚ) : ℤ :=
  if Int.fract x < 1 / 2 then ⌊x⌋
  else if 1 / 2 < Int.fract x then ⌊x⌋ + 1
  else ⌊x⌋ + ⌊x⌋ % 2

theorem toWhole_intCast (n : ℤ) : toWhole n = n := by
  simp [toWhole]

theorem floor_le_toWhole (x : ℚ) : ⌊x⌋ ≤ toWhole x := by
  have even := Int.emod_nonneg ⌊x⌋ (by decide : (2 : ℤ) ≠ 0)
  unfold toWhole
  split_ifs <;> omega

theorem toWhole_le_floor_add_one (x : ℚ) : toWhole x ≤ ⌊x⌋ + 1 := by
  have odd := Int.emod_lt_of_pos ⌊x⌋ (by decide : (0 : ℤ) < 2)
  unfold toWhole
  split_ifs <;> omega

theorem toWhole_mono {x y : ℚ} (ordered : x ≤ y) : toWhole x ≤ toWhole y := by
  rcases (Int.floor_le_floor ordered).eq_or_lt with same | apart
  · have fractions : Int.fract x ≤ Int.fract y := by
      simp only [Int.fract, same]
      linarith
    have even := Int.emod_nonneg ⌊y⌋ (by decide : (2 : ℤ) ≠ 0)
    have odd := Int.emod_lt_of_pos ⌊y⌋ (by decide : (0 : ℤ) < 2)
    unfold toWhole
    rw [same]
    split_ifs <;> first | omega | (exfalso; linarith)
  · exact (toWhole_le_floor_add_one x).trans ((Int.add_one_le_of_lt apart).trans (floor_le_toWhole y))

theorem toWhole_le_of_lt {x : ℚ} {n : ℤ} (below : x < n + 1 / 2) : toWhole x ≤ n := by
  have whole : ⌊x⌋ ≤ n := by
    rw [← Int.lt_add_one_iff, Int.floor_lt]
    push_cast
    linarith
  rcases whole.lt_or_eq with less | equal
  · exact (toWhole_le_floor_add_one x).trans less
  · have fraction : Int.fract x < 1 / 2 := by
      rw [Int.fract, equal]
      linarith
    rw [toWhole, if_pos fraction]
    exact whole

variable (format : Format)

/-- The exponent of the grid around a positive number. -/
def spacing (x : ℚ) : ℤ :=
  max (Int.log 2 x + 1 - format.mantissaBits) format.minExponent

/-- A number that is not negative, rounded on the grid around it. -/
def onGrid (x : ℚ) : ℚ :=
  toWhole (x / 2 ^ spacing format x) * 2 ^ spacing format x

/-- The nearest number of a format that goes on without end. -/
def nearest (x : ℚ) : ℚ :=
  if 0 ≤ x then onGrid format x else -onGrid format (-x)

/-- Where the finite numbers of a format end. -/
def limit : ℚ :=
  2 ^ (format.exponentBias + 1)

/-- The nearest number of a format.  What is beyond its end is at the end. -/
def rounded (x : ℚ) : ℚ :=
  max (-limit format) (min (limit format) (nearest format x))

theorem mantissaBits_pos : 0 < format.mantissaBits := by
  unfold Format.mantissaBits
  omega

theorem limit_pos : 0 < limit format := by
  unfold limit
  positivity

/-- A number is less than `2 ^ mantissaBits` steps of the grid around it. -/
theorem div_spacing_lt (x : ℚ) : x / 2 ^ spacing format x < 2 ^ format.mantissaBits := by
  rw [div_lt_iff₀ (by positivity), ← zpow_natCast, ← zpow_add₀ two_ne_zero]
  calc x < 2 ^ (Int.log 2 x + 1) := Int.lt_zpow_succ_log_self (by decide) x
    _ ≤ 2 ^ (format.mantissaBits + spacing format x : ℤ) := by
        apply zpow_le_zpow_right₀ one_le_two
        unfold spacing
        omega

variable {format}

/-- Above the finest grid, it is at least half as many. -/
theorem le_div_spacing {x : ℚ} (positive : 0 < x)
    (coarse : spacing format x ≠ format.minExponent) :
    2 ^ format.mantissaBitsWithoutImplicit ≤ x / 2 ^ spacing format x := by
  have log : format.mantissaBitsWithoutImplicit + spacing format x = Int.log 2 x := by
    unfold spacing Format.mantissaBits at *
    omega
  rw [le_div_iff₀ (by positivity), ← zpow_natCast, ← zpow_add₀ two_ne_zero, log]
  exact Int.zpow_log_le_self (by decide) positive

theorem onGrid_le_of_le {x : ℚ} {n : ℤ} (bounded : x ≤ n * 2 ^ spacing format x) :
    onGrid format x ≤ n * 2 ^ spacing format x := by
  have quotient : x / 2 ^ spacing format x ≤ n := by
    rw [div_le_iff₀ (by positivity)]
    exact bounded
  have whole := toWhole_mono quotient
  rw [toWhole_intCast] at whole
  unfold onGrid
  gcongr

theorem le_onGrid_of_le {x : ℚ} {n : ℤ} (bounded : n * 2 ^ spacing format x ≤ x) :
    n * 2 ^ spacing format x ≤ onGrid format x := by
  have quotient : (n : ℚ) ≤ x / 2 ^ spacing format x := by
    rw [le_div_iff₀ (by positivity)]
    exact bounded
  have whole := toWhole_mono quotient
  rw [toWhole_intCast] at whole
  unfold onGrid
  gcongr

theorem onGrid_nonneg {x : ℚ} (positive : 0 ≤ x) : 0 ≤ onGrid format x := by
  have multiple : ((0 : ℤ) : ℚ) * 2 ^ spacing format x ≤ x := by simpa using positive
  simpa using le_onGrid_of_le multiple

theorem onGrid_zero : onGrid format 0 = 0 := by
  simp [onGrid, toWhole]

theorem two_pow_mul_zpow (exponent : ℤ) (count : ℕ) :
    (((2 ^ count : ℕ) : ℤ) : ℚ) * 2 ^ exponent = 2 ^ (exponent + count) := by
  push_cast
  rw [zpow_add₀ two_ne_zero, zpow_natCast, mul_comm]

/-- Between two grids lies a power of two, which belongs to both. -/
theorem onGrid_mono {x y : ℚ} (positive : 0 ≤ x) (ordered : x ≤ y) :
    onGrid format x ≤ onGrid format y := by
  rcases positive.eq_or_lt with zero | positive
  · rw [← zero, onGrid_zero]
    exact onGrid_nonneg (zero ▸ ordered)
  have logs : Int.log 2 x ≤ Int.log 2 y := Int.log_mono_right positive ordered
  by_cases same : spacing format x = spacing format y
  · have quotient : x / 2 ^ spacing format y ≤ y / 2 ^ spacing format y := by gcongr
    unfold onGrid
    rw [same]
    have whole := toWhole_mono quotient
    gcongr
  · have apart : Int.log 2 x + 1 ≤ Int.log 2 y ∧
        spacing format y = Int.log 2 y + 1 - format.mantissaBits ∧
        spacing format x ≤ Int.log 2 y := by
      have bits := mantissaBits_pos format
      unfold spacing at *
      omega
    have below : x ≤ 2 ^ Int.log 2 y :=
      (Int.lt_zpow_succ_log_self (by decide) x).le.trans
        (zpow_le_zpow_right₀ one_le_two apart.1)
    have above : (2 : ℚ) ^ Int.log 2 y ≤ y :=
      Int.zpow_log_le_self (by decide) (positive.trans_le ordered)
    have onFirst : (2 : ℚ) ^ Int.log 2 y =
        ((2 ^ (Int.log 2 y - spacing format x).toNat : ℕ) : ℤ) * 2 ^ spacing format x := by
      rw [two_pow_mul_zpow]
      congr 1
      omega
    have onSecond : (2 : ℚ) ^ Int.log 2 y =
        ((2 ^ (format.mantissaBits - 1) : ℕ) : ℤ) * 2 ^ spacing format y := by
      have bits := mantissaBits_pos format
      rw [two_pow_mul_zpow, apart.2.1]
      congr 1
      omega
    calc onGrid format x ≤ 2 ^ Int.log 2 y := by
          rw [onFirst] at below ⊢
          exact onGrid_le_of_le below
      _ ≤ onGrid format y := by
          rw [onSecond] at above ⊢
          exact le_onGrid_of_le above

theorem nearest_neg (x : ℚ) : nearest format (-x) = -nearest format x := by
  unfold nearest
  rcases lt_trichotomy x 0 with negative | zero | positive
  · rw [if_pos (by linarith), if_neg (by linarith), neg_neg]
  · simp [zero, onGrid_zero]
  · rw [if_neg (by linarith), if_pos positive.le, neg_neg]

theorem nearest_nonneg {x : ℚ} (positive : 0 ≤ x) : 0 ≤ nearest format x := by
  rw [nearest, if_pos positive]
  exact onGrid_nonneg positive

theorem nearest_mono {x y : ℚ} (ordered : x ≤ y) : nearest format x ≤ nearest format y := by
  rcases le_or_gt 0 x with positive | negative
  · rw [nearest, nearest, if_pos positive, if_pos (positive.trans ordered)]
    exact onGrid_mono positive ordered
  · rcases le_or_gt 0 y with across | below
    · rw [nearest, if_neg (not_le.mpr negative)]
      exact (neg_nonpos.mpr (onGrid_nonneg (by linarith))).trans (nearest_nonneg across)
    · rw [nearest, nearest, if_neg (not_le.mpr negative), if_neg (not_le.mpr below)]
      exact neg_le_neg (onGrid_mono (by linarith) (by linarith))

/-! ## The numbers of a format -/

/-- A number that the format has, the two ends included. -/
structure Representable (format : Format) (x : ℚ) : Prop where
  onGrid : Exists fun mantissa : ℤ => Exists fun exponent : ℤ =>
    x = mantissa * 2 ^ exponent ∧ |mantissa| < 2 ^ format.mantissaBits ∧
      format.minExponent ≤ exponent
  bounded : |x| ≤ limit format

namespace Representable

theorem neg {x : ℚ} (member : Representable format x) : Representable format (-x) := by
  rcases member with ⟨⟨mantissa, exponent, rfl, small, large⟩, bounded⟩
  refine ⟨⟨-mantissa, exponent, by push_cast; ring, by rwa [abs_neg], large⟩, ?_⟩
  rwa [abs_neg]

theorem abs {x : ℚ} (member : Representable format x) : Representable format |x| := by
  rcases abs_choice x with same | negated
  · rwa [same]
  · rw [negated]
    exact member.neg

theorem mul_two_pow {x : ℚ} {count : ℕ} (member : Representable format x)
    (bounded : |x * 2 ^ count| ≤ limit format) : Representable format (x * 2 ^ count) := by
  rcases member.onGrid with ⟨mantissa, exponent, equal, small, least⟩
  refine ⟨⟨mantissa, exponent + count, ?_, small, by omega⟩, bounded⟩
  rw [equal, zpow_add₀ two_ne_zero, zpow_natCast, mul_assoc]

theorem zero : Representable format 0 :=
  ⟨⟨0, format.minExponent, by simp, by simp, le_rfl⟩, by simpa using (limit_pos format).le⟩

/-- A number of the format is a multiple of the spacing around it. -/
theorem onGrid_eq {x : ℚ} (member : Representable format x) (positive : 0 ≤ x) :
    Exact.onGrid format x = x := by
  rcases positive.eq_or_lt with zero | positive
  · rw [← zero, onGrid_zero]
  rcases member with ⟨⟨mantissa, exponent, equal, small, large⟩, -⟩
  have power : (0 : ℚ) < 2 ^ exponent := by positivity
  have below : x < 2 ^ (exponent + format.mantissaBits) := by
    rw [equal, zpow_add₀ two_ne_zero, zpow_natCast, mul_comm]
    have bound : (mantissa : ℚ) < 2 ^ format.mantissaBits := by
      exact_mod_cast (le_abs_self mantissa).trans_lt small
    gcongr
  have near : spacing format x ≤ exponent := by
    have log : Int.log 2 x < exponent + format.mantissaBits :=
      (Int.lt_zpow_iff_log_lt (by decide) positive).mp below
    unfold spacing
    omega
  have multiple : x = ((mantissa * 2 ^ (exponent - spacing format x).toNat : ℤ) : ℚ) *
      2 ^ spacing format x := by
    push_cast
    rw [mul_assoc, ← zpow_natCast, ← zpow_add₀ two_ne_zero, Int.toNat_of_nonneg (by omega),
      sub_add_cancel, equal]
  exact le_antisymm
    (by conv_rhs => rw [multiple]
        exact onGrid_le_of_le multiple.le)
    (by conv_lhs => rw [multiple]
        exact le_onGrid_of_le multiple.ge)

theorem nearest_eq {x : ℚ} (member : Representable format x) : nearest format x = x := by
  unfold nearest
  split_ifs with positive
  · exact member.onGrid_eq positive
  · rw [member.neg.onGrid_eq (by linarith), neg_neg]

theorem rounded_eq {x : ℚ} (member : Representable format x) : rounded format x = x := by
  have bounds := abs_le.mp member.bounded
  rw [rounded, member.nearest_eq, min_eq_right bounds.2, max_eq_right bounds.1]

end Representable

theorem rounded_mono {x y : ℚ} (ordered : x ≤ y) : rounded format x ≤ rounded format y :=
  max_le_max le_rfl (min_le_min le_rfl (nearest_mono ordered))

theorem rounded_le {x bound : ℚ} (member : Representable format bound) (ordered : x ≤ bound) :
    rounded format x ≤ bound :=
  member.rounded_eq ▸ rounded_mono ordered

theorem le_rounded {x bound : ℚ} (member : Representable format bound) (ordered : bound ≤ x) :
    bound ≤ rounded format x :=
  member.rounded_eq ▸ rounded_mono ordered

end Exact

end Starfield
