import Starfield.Number.Order
import Starfield.Proofs.Number.Conversion

namespace Starfield

open Float.Model (Format UnpackedFloat)
open Float.Model.UnpackedFloat (Sign)

/-!
# The total order and the comparison

The total order tells minus zero from zero and gives a place to undefined
numbers.  Apart from that it agrees with the comparison of numbers, because the
key of a magnitude grows with what the magnitude stands for.
-/

namespace Double

/-- A canonical magnitude with a smaller value has a smaller key. -/
theorem magnitudeKey_lt {sign otherSign : Sign} {mantissa otherMantissa : ℕ} {exponent other : ℤ}
    {positive : 0 < mantissa} {otherPositive : 0 < otherMantissa}
    (first : Exact.Canonical .binary64 (.finite sign mantissa exponent positive))
    (second : Exact.Canonical .binary64 (.finite otherSign otherMantissa other otherPositive))
    (below : (mantissa * 2 ^ exponent : ℚ) < otherMantissa * 2 ^ other) :
    magnitudeKey mantissa exponent < magnitudeKey otherMantissa other := by
  have small : mantissa < 9007199254740992 := first.1
  have power : Int.pow 2 53 = 9007199254740992 := rfl
  unfold magnitudeKey
  rw [power]
  rcases lt_trichotomy exponent other with lower | same | higher
  · omega
  · subst same
    have less : mantissa < otherMantissa := by
      exact_mod_cast lt_of_mul_lt_mul_right below (by positivity)
    omega
  · -- Above the least exponent a mantissa has its leading digit.
    exact absurd (Exact.mantissa_lt second.1 higher second.2.1 first.2.2) below.le.not_gt

/-- The key of a magnitude lies between those of zero and infinity, also once
it is mirrored. -/
theorem magnitudeKey_bounds {sign : Sign} {mantissa : ℕ} {exponent : ℤ} {positive : 0 < mantissa}
    (sound : Exact.Sound .binary64 (.finite sign mantissa exponent positive)) :
    0 < magnitudeKey mantissa exponent ∧ magnitudeKey mantissa exponent + 1 < Int.pow 2 65 := by
  have small : mantissa < 9007199254740992 := sound.canonical.1
  have low : -1074 ≤ exponent := sound.canonical.2.1
  have power : Int.pow 2 53 = 9007199254740992 := rfl
  have beyond : Int.pow 2 65 = 36893488147419103232 := rfl
  have high : exponent < 972 := by
    rcases sound.canonical.2.2 with leading | least
    · have inside := sound.bounded rfl
      rw [Exact.value, Exact.abs_signed, abs_of_nonneg (by positivity)] at inside
      by_contra large
      have more : (2 : ℚ) ^ 972 ≤ 2 ^ exponent := by
        rw [← zpow_natCast]
        exact zpow_le_zpow_right₀ one_le_two (by omega)
      have full : (2 : ℚ) ^ 52 ≤ mantissa := by exact_mod_cast leading
      have whole : (2 : ℚ) ^ 52 * 2 ^ 972 ≤ mantissa * 2 ^ exponent := by gcongr
      rw [← pow_add] at whole
      exact absurd inside whole.not_gt
    · rw [least]
      decide
  unfold magnitudeKey
  rw [power, beyond]
  omega

/-- The place of a number without its sign, from which `mirrored` makes its
place in the order. -/
def sizeKey : UnpackedFloat -> ℤ
  | .infinity .positive => Int.pow 2 65
  | .infinity .negative => Int.pow 2 65 - 1
  | .finite _ mantissa exponent _ => magnitudeKey mantissa exponent
  | _ => 0

/-- The place of a number with a sign.  The mirror leaves room for both zeros. -/
def mirrored : Sign -> ℤ -> ℤ
  | .positive, key => key
  | .negative, key => -key - 1

theorem sizeKey_infinity (sign : Sign) : Int.pow 2 65 - 1 ≤ sizeKey (.infinity sign) := by
  cases sign <;> decide

theorem sizeKey_nonneg {u : UnpackedFloat} (sound : Exact.Sound .binary64 u) : 0 ≤ sizeKey u := by
  cases u with
  | notANumber => exact le_rfl
  | zero => exact le_rfl
  | infinity sign => exact le_trans (by decide) (sizeKey_infinity sign)
  | finite => exact (magnitudeKey_bounds sound).1.le

/-- A number of smaller size has the smaller key of the size. -/
theorem sizeKey_lt {u v : UnpackedFloat} (first : Exact.Sound .binary64 u)
    (second : Exact.Sound .binary64 v) (defined : v.isNaN = false)
    (below : |Exact.value .binary64 u| < |Exact.value .binary64 v|) : sizeKey u < sizeKey v := by
  cases u with
  | infinity sign =>
      rw [Exact.value, Exact.abs_signed, abs_of_pos (Exact.limit_pos _)] at below
      exact absurd below second.representable.bounded.not_gt
  | finite sign mantissa exponent positive =>
      have bounds := magnitudeKey_bounds first
      cases v with
      | notANumber => cases defined
      | infinity other => exact (lt_sub_iff_add_lt.mpr bounds.2).trans_le (sizeKey_infinity other)
      | zero =>
          rw [Exact.value, Exact.value, abs_zero] at below
          exact absurd below (abs_nonneg _).not_gt
      | finite =>
          simp only [Exact.value, Exact.abs_signed] at below
          rw [abs_of_nonneg (by positivity), abs_of_nonneg (by positivity)] at below
          exact magnitudeKey_lt first.canonical second.canonical below
  | _ =>
      cases v with
      | infinity other =>
          exact (show 0 < Int.pow 2 65 - 1 by decide).trans_le (sizeKey_infinity other)
      | finite => exact (magnitudeKey_bounds second).1
      | _ => exact absurd below (lt_irrefl _)

theorem exists_mirrored {x : Float} (defined : IsDefined x) (place : UndefinedPlace) :
    Exists fun sign => exact x = Exact.signed sign |exact x| ∧
      orderKey place x = mirrored sign (sizeKey (Binary.unpack x)) := by
  unfold IsDefined at defined
  unfold orderKey exact
  generalize Binary.unpack x = u at *
  cases u with
  | notANumber => cases defined
  | zero sign =>
      refine ⟨sign, ?_, ?_⟩
      · rw [Exact.value, abs_zero]
        cases sign <;> simp [Exact.signed]
      · cases sign <;> rfl
  | infinity sign =>
      refine ⟨sign, ?_, ?_⟩
      · rw [Exact.value, Exact.abs_signed, abs_of_pos (Exact.limit_pos _)]
      · cases sign <;> simp only [mirrored, sizeKey]
        omega
  | finite sign mantissa exponent positive =>
      refine ⟨sign, ?_, ?_⟩
      · rw [Exact.value, Exact.abs_signed, abs_of_nonneg (by positivity)]
      · cases sign <;> rfl

/-- A number that is smaller stands before the other. -/
theorem orderKey_lt {place : UndefinedPlace} {x y : Float} (first : IsDefined x)
    (second : IsDefined y) (below : exact x < exact y) : orderKey place x < orderKey place y := by
  rcases exists_mirrored first place with ⟨sign, value_eq, key_eq⟩
  rcases exists_mirrored second place with ⟨other, other_eq, otherKey_eq⟩
  have nonneg := sizeKey_nonneg (sound x)
  have otherNonneg := sizeKey_nonneg (sound y)
  have size := abs_nonneg (exact x)
  have otherSize := abs_nonneg (exact y)
  rw [key_eq, otherKey_eq]
  cases sign <;> cases other <;> simp only [Exact.signed] at value_eq other_eq <;>
    simp only [mirrored]
  case negative.negative =>
    have larger := sizeKey_lt (sound y) (sound x) first (show |exact y| < |exact x| by linarith)
    omega
  case negative.positive => omega
  case positive.negative => exact absurd below (by linarith)
  case positive.positive =>
    exact sizeKey_lt (sound x) (sound y) second (show |exact x| < |exact y| by linarith)

/-- Numbers that stand in order and are not undefined are in order. -/
theorem le_of_orderKey_le {place : UndefinedPlace} {x y : Float} (first : IsDefined x)
    (second : IsDefined y) (ordered : orderKey place x ≤ orderKey place y) : x ≤ y := by
  rw [le_iff_exact first second]
  by_contra above
  exact absurd ordered (orderKey_lt second first (not_le.mp above)).not_ge

end Double

end Starfield
