import Starfield.Proofs.Number.Conversion

namespace Starfield

open Float.Model (Format UnpackedFloat)
open Float.Model.UnpackedFloat (Sign)

/-!
# Truncation

A number becomes a whole one by losing its fraction.  What is negative or
undefined becomes zero, what is too large the largest whole number there is.
So truncation is monotone, and it undoes the conversion of a whole number that
was not rounded.
-/

namespace Exact

variable {format : Format}

theorem roundToInt_eq (sign : Sign) (mantissa : ℕ) (exponent : ℤ) :
    UnpackedFloat.roundToInt sign mantissa exponent =
      sign.apply ⌊(mantissa * 2 ^ exponent : ℚ)⌋ := by
  unfold UnpackedFloat.roundToInt
  set lowered := UnpackedFloat.decreaseExponent mantissa exponent 0 with lowered_eq
  have below : lowered.2 ≤ 0 := by
    change exponent - ((exponent - 0).toNat : ℤ) ≤ 0
    omega
  have same : (lowered.1 * 2 ^ lowered.2 : ℚ) = mantissa * 2 ^ exponent := by
    change ((mantissa <<< (exponent - 0).toNat : ℕ) : ℚ) *
      2 ^ (exponent - ((exponent - 0).toNat : ℤ)) = _
    rw [Nat.shiftLeft_eq, Nat.cast_mul, Nat.cast_pow, Nat.cast_two, mul_assoc, ← zpow_natCast,
      ← zpow_add₀ two_ne_zero, add_sub_cancel]
  have described := shiftToExponent_fst lowered.1 lowered.2 0 .exact (describes_exact _) below
  rw [zpow_zero, div_one, same] at described
  rw [described.whole]

/-- What a conversion to a whole number keeps: the whole part, up to the
largest whole number. -/
theorem min_toInt {size : ℕ} (wide : (size : ℚ) ≤ limit format) (u : UnpackedFloat) :
    min (UnpackedFloat.toInt 0 (size - 1) u).toNat (size - 1) =
      min ⌊value format u⌋₊ (size - 1) := by
  cases u with
  | notANumber => rw [value, Nat.floor_zero]; rfl
  | zero => rw [value, Nat.floor_zero]; rfl
  | infinity sign =>
      cases sign with
      | negative =>
          have below : signed .negative (limit format) ≤ 0 := neg_nonpos.mpr (limit_pos format).le
          rw [value, Nat.floor_of_nonpos below]
          rfl
      | positive =>
          have beyond : size - 1 ≤ ⌊limit format⌋₊ := (Nat.sub_le _ _).trans (Nat.le_floor wide)
          have top : ((size : ℤ) - 1).toNat = size - 1 := by omega
          rw [value, signed, min_eq_right beyond, UnpackedFloat.toInt, top, min_self]
  | finite sign mantissa exponent positive =>
      have size : (0 : ℚ) ≤ mantissa * 2 ^ exponent := by positivity
      rw [UnpackedFloat.toInt, roundToInt_eq, value]
      congr 1
      cases sign with
      | negative =>
          have below : signed .negative (mantissa * 2 ^ exponent) ≤ 0 := neg_nonpos.mpr size
          rw [Nat.floor_of_nonpos below, Sign.apply, Int.toNat_eq_zero, neg_nonpos]
          exact Int.floor_nonneg.mpr size
      | positive => exact Int.floor_toNat _

end Exact

/-- The whole part of a number, held to the range of whole numbers. -/
theorem toNat_unpack_toUInt32 {α : Type} [Binary α] (wide : (UInt32.size : ℚ) ≤ limit α) (x : α) :
    (Binary.unpack x).toUInt32.toNat = min ⌊exact x⌋₊ (UInt32.size - 1) := by
  have clamped (n : ℕ) : (UInt32.ofNatClamp n).toNat = min n (UInt32.size - 1) := by
    unfold UInt32.ofNatClamp
    split_ifs with inside
    · rw [UInt32.toNat_ofNatLT, min_eq_left (Nat.le_sub_one_of_lt inside)]
    · rw [UInt32.toNat_ofNatLT, min_eq_right (by omega)]
  rw [UnpackedFloat.toUInt32, clamped]
  exact Exact.min_toInt wide _

theorem toNat_toUInt32 (x : Float32) :
    x.toUInt32.toNat = min ⌊exact x⌋₊ (UInt32.size - 1) := by
  have wide : ((UInt32.size : ℕ) : ℚ) ≤ limit Float32 := by
    change ((4294967296 : ℕ) : ℚ) ≤ 2 ^ 128
    norm_num
  exact toNat_unpack_toUInt32 wide x

theorem toNat_double_toUInt32 (x : Float) :
    x.toUInt32.toNat = min ⌊exact x⌋₊ (UInt32.size - 1) := by
  have wide : ((UInt32.size : ℕ) : ℚ) ≤ limit Float := by
    change ((4294967296 : ℕ) : ℚ) ≤ 2 ^ 1024
    exact (by norm_num : ((4294967296 : ℕ) : ℚ) ≤ 2 ^ 32).trans
      (pow_le_pow_right₀ one_le_two (by decide))
  exact toNat_unpack_toUInt32 wide x

theorem toNat_toUInt64 (x : Float) :
    x.toUInt64.toNat = min ⌊exact x⌋₊ (UInt64.size - 1) := by
  have clamped (n : ℕ) : (UInt64.ofNatClamp n).toNat = min n (UInt64.size - 1) := by
    unfold UInt64.ofNatClamp
    split_ifs with inside
    · rw [UInt64.toNat_ofNatLT, min_eq_left (Nat.le_sub_one_of_lt inside)]
    · rw [UInt64.toNat_ofNatLT, min_eq_right (by omega)]
  have wide : ((UInt64.size : ℕ) : ℚ) ≤ limit Float := by
    change ((18446744073709551616 : ℕ) : ℚ) ≤ 2 ^ 1024
    exact (by norm_num : ((18446744073709551616 : ℕ) : ℚ) ≤ 2 ^ 64).trans
      (pow_le_pow_right₀ one_le_two (by decide))
  exact (clamped _).trans (Exact.min_toInt wide _)

theorem toUInt32_mono {x y : Float32} (ordered : exact x ≤ exact y) :
    x.toUInt32.toNat ≤ y.toUInt32.toNat := by
  rw [toNat_toUInt32, toNat_toUInt32]
  exact min_le_min_right _ (Nat.floor_mono ordered)

/-- The whole numbers up to `2 ^ 24` are numbers of single precision. -/
theorem exact_toFloat32 {n : UInt32} (small : n.toNat ≤ 2 ^ 24) : exact n.toFloat32 = n.toNat := by
  apply (rounds_toFloat32 n).exact_eq_of_isValue
  rcases small.lt_or_eq with less | equal
  · exact isValue_natCast less
  · rw [equal]
    exact_mod_cast isValue_two_pow (n := 24) (by decide)

/-- They survive the conversion to a number and back. -/
theorem toUInt32_toFloat32 {n : UInt32} (small : n.toNat ≤ 2 ^ 24) :
    n.toFloat32.toUInt32.toNat = n.toNat := by
  have below : n.toNat ≤ UInt32.size - 1 := Nat.le_sub_one_of_lt n.toNat_lt
  rw [toNat_toUInt32, exact_toFloat32 small, Nat.floor_natCast, min_eq_left below]

end Starfield
