import Starfield.Proofs.Number.Packed

namespace Starfield

open Float.Model (Format UnpackedFloat)

/-!
# The largest number

The finite numbers of a format stop one step before its end, and what is less
than half a step beyond the last of them is rounded back to it.  So a finite
number stays finite when something small is added, however large it is.
-/

namespace Exact

variable {format : Format}

/-- The distance of the largest finite number from the end of the format. -/
def lastStep (format : Format) : ℚ :=
  2 ^ (format.exponentBias - format.mantissaBitsWithoutImplicit : ℤ)

theorem lastStep_pos (format : Format) : 0 < lastStep format := by
  unfold lastStep
  positivity

theorem limit_eq_mul_lastStep (format : Format) :
    limit format = 2 ^ format.mantissaBits * lastStep format := by
  unfold limit lastStep Format.mantissaBits
  rw [← zpow_natCast, ← zpow_natCast, ← zpow_add₀ two_ne_zero]
  congr 1
  push_cast
  ring

theorem two_mul_lastStep_le (format : Format) : 2 * lastStep format ≤ limit format := by
  have step := lastStep_pos format
  have bits := mantissaBits_pos format
  rw [limit_eq_mul_lastStep]
  have whole : (2 : ℚ) ≤ 2 ^ format.mantissaBits := le_self_pow₀ one_le_two bits.ne'
  gcongr

theorem mul_lastStep_le {steps : ℚ} (within : steps ≤ 2 ^ format.mantissaBits - 1) :
    steps * lastStep format ≤ limit format - lastStep format := by
  have step := lastStep_pos format
  calc steps * lastStep format ≤ (2 ^ format.mantissaBits - 1) * lastStep format := by gcongr
    _ = limit format - lastStep format := by
        rw [limit_eq_mul_lastStep]
        ring

theorem minExponent_le_lastStep (wide : 1 < format.exponentBits) :
    format.minExponent ≤ format.exponentBias - format.mantissaBitsWithoutImplicit := by
  have bias := minExponent_add_bias format
  have power := two_pow_exponentBits format
  have several : 2 ^ 2 ≤ 2 ^ format.exponentBits := Nat.pow_le_pow_right (by decide) wide
  omega

/-- From half of the end up to the end the steps are the last ones. -/
theorem spacing_eq_lastStep (wide : 1 < format.exponentBits) {y : ℚ}
    (low : limit format ≤ 2 * y) (high : y < limit format) :
    spacing format y = format.exponentBias - format.mantissaBitsWithoutImplicit := by
  have least := minExponent_le_lastStep wide
  have positive : 0 < y := by linarith [limit_pos format]
  have log : Int.log 2 y = format.exponentBias := by
    apply le_antisymm
    · apply Int.lt_add_one_iff.mp
      apply (Int.lt_zpow_iff_log_lt (by decide) positive).mp
      have power : limit format = ((2 : ℕ) : ℚ) ^ (format.exponentBias + 1 : ℤ) := by
        rw [limit, ← zpow_natCast]
        push_cast
        rfl
      rwa [← power]
    · apply (Int.zpow_le_iff_le_log (by decide) positive).mp
      have power : limit format = 2 * ((2 : ℕ) : ℚ) ^ (format.exponentBias : ℤ) := by
        rw [limit, pow_succ, zpow_natCast]
        push_cast
        ring
      linarith
  unfold spacing Format.mantissaBits
  rw [log]
  omega

/-- Finite numbers keep a distance from the end of the format. -/
theorem Sound.abs_value_le (wide : 1 < format.exponentBits) {u : UnpackedFloat}
    (sound : Sound format u) (finite : u.isFinite = true) :
    |value format u| ≤ limit format - lastStep format := by
  have step := lastStep_pos format
  have room := two_mul_lastStep_le format
  have inside := sound.bounded finite
  have least := minExponent_le_lastStep wide
  cases u with
  | notANumber => cases finite
  | infinity => cases finite
  | zero =>
      rw [value, abs_zero]
      linarith
  | finite sign mantissa exponent positive =>
      rcases sound.canonical with ⟨small, low, full⟩
      rw [value, abs_signed, abs_of_nonneg (by positivity)] at inside ⊢
      have digits : (mantissa : ℚ) ≤ 2 ^ format.mantissaBits - 1 := by
        rw [le_sub_iff_add_le]
        exact_mod_cast small
      have exponent_le : exponent ≤ format.exponentBias - format.mantissaBitsWithoutImplicit := by
        by_contra above
        have beyond : limit format ≤ mantissa * 2 ^ exponent :=
          limit_le_mul_zpow (full.resolve_right (by omega)) (by omega)
        exact absurd inside (not_lt.mpr beyond)
      have power : (2 : ℚ) ^ exponent ≤ lastStep format := zpow_le_zpow_right₀ one_le_two exponent_le
      calc (mantissa * 2 ^ exponent : ℚ) ≤ mantissa * lastStep format := by gcongr
        _ ≤ limit format - lastStep format := mul_lastStep_le digits

/-- Half of that distance is not enough to round to the end. -/
theorem nearest_le_of_lt (wide : 1 < format.exponentBits) {x : ℚ}
    (below : x < limit format - lastStep format / 2) :
    nearest format x ≤ limit format - lastStep format := by
  have step := lastStep_pos format
  have room := two_mul_lastStep_le format
  set y := max x (limit format - lastStep format) with y_eq
  have high : y < limit format - lastStep format / 2 := max_lt below (by linarith)
  have low : limit format - lastStep format ≤ y := le_max_right _ _
  have grid : spacing format y = format.exponentBias - format.mantissaBitsWithoutImplicit :=
    spacing_eq_lastStep wide (by linarith) (by linarith)
  have whole : toWhole (y / lastStep format) ≤ 2 ^ format.mantissaBits - 1 := by
    apply toWhole_le_of_lt
    rw [div_lt_iff₀ step]
    push_cast
    rw [limit_eq_mul_lastStep] at high
    linarith
  have cast : (toWhole (y / lastStep format) : ℚ) ≤ 2 ^ format.mantissaBits - 1 := by
    exact_mod_cast whole
  calc nearest format x ≤ nearest format y := nearest_mono (le_max_left _ _)
    _ = toWhole (y / lastStep format) * lastStep format := by
        rw [nearest, if_pos (by linarith : 0 ≤ y), onGrid, grid]
        rfl
    _ ≤ limit format - lastStep format := mul_lastStep_le cast

theorem abs_rounded_lt_limit (wide : 1 < format.exponentBits) {x : ℚ}
    (inside : |x| < limit format - lastStep format / 2) : |rounded format x| < limit format := by
  have step := lastStep_pos format
  have bounds := abs_lt.mp inside
  have above := nearest_le_of_lt wide bounds.2
  have below : nearest format (-x) ≤ limit format - lastStep format :=
    nearest_le_of_lt wide (by linarith)
  rw [nearest_neg] at below
  rw [rounded, min_eq_right (by linarith), max_eq_right (by linarith)]
  exact abs_lt.mpr ⟨by linarith, by linarith⟩

end Exact

end Starfield
