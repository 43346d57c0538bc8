import Starfield.Proofs.Number.Nearest

namespace Starfield

open Float.Model (Format UnpackedFloat)
open Float.Model.UnpackedFloat (Sign)

/-!
# Exact values

An unpacked number stands for a rational one.  An infinity stands for the end
of its format, which no finite number reaches, so the order of the numbers that
are not undefined is the order of the rationals they stand for.
-/

namespace Exact

/-- A magnitude with a sign. -/
def signed : Sign -> ℚ -> ℚ
  | .positive, x => x
  | .negative, x => -x

theorem signed_neg (sign : Sign) (x : ℚ) : signed (-sign) x = -signed sign x := by
  cases sign
  · exact (neg_neg x).symm
  · rfl

theorem abs_signed (sign : Sign) (x : ℚ) : |signed sign x| = |x| := by
  cases sign
  · exact abs_neg x
  · rfl

theorem signed_eq_ite (sign : Sign) {x : ℚ} (positive : 0 < x) (y : ℚ) :
    signed sign y = if signed sign x < 0 then -y else y := by
  cases sign with
  | positive => exact (if_neg positive.not_gt).symm
  | negative => exact (if_pos (neg_neg_of_pos positive)).symm

theorem signed_mul (first second : Sign) (x y : ℚ) :
    signed (first * second) (x * y) = signed first x * signed second y := by
  cases first <;> cases second
  · exact (neg_mul_neg x y).symm
  · exact (neg_mul x y).symm
  · exact (mul_neg x y).symm
  · rfl

theorem signed_div (first second : Sign) (x y : ℚ) :
    signed (first / second) (x / y) = signed first x / signed second y := by
  cases first <;> cases second
  · exact (neg_div_neg_eq x y).symm
  · exact (neg_div y x).symm
  · exact (div_neg x).symm
  · rfl

theorem signed_apply (sign : Sign) (n : ℤ) : ((sign.apply n : ℤ) : ℚ) = signed sign n := by
  cases sign
  · exact Int.cast_neg n
  · rfl

theorem signed_mul_right (sign : Sign) (x y : ℚ) : signed sign (x * y) = signed sign x * y := by
  cases sign
  · exact (neg_mul x y).symm
  · rfl

variable (format : Format)

/-- The rational number that an unpacked number stands for. -/
def value : UnpackedFloat -> ℚ
  | .notANumber => 0
  | .zero _ => 0
  | .infinity sign => signed sign (limit format)
  | .finite sign mantissa exponent _ => signed sign (mantissa * 2 ^ exponent)

/-- The exponent of a finite number is the one that the format has for its
size. -/
def Canonical : UnpackedFloat -> Prop
  | .finite _ mantissa exponent _ =>
    mantissa < 2 ^ format.mantissaBits ∧ format.minExponent ≤ exponent ∧
      (2 ^ format.mantissaBitsWithoutImplicit ≤ mantissa ∨ exponent = format.minExponent)
  | _ => True

/-- A number of the format. -/
structure Sound (u : UnpackedFloat) : Prop where
  canonical : Canonical format u
  bounded : u.isFinite = true -> |value format u| < limit format

variable {format}

/-- The bias moves the least exponent of a mantissa with a leading one to 1. -/
theorem minExponent_add_bias (format : Format) :
    format.minExponent + format.mantissaBitsWithoutImplicit + format.exponentBias = 1 := by
  have power : 1 ≤ 2 ^ (format.exponentBits - 1) := Nat.one_le_two_pow
  unfold Format.minExponent Format.exponentBias Format.mantissaBits
  push_cast [power]
  ring

theorem minExponent_nonpos (format : Format) : format.minExponent ≤ 0 := by
  have bias := minExponent_add_bias format
  have implicit := format.hm
  omega

theorem representable_limit (format : Format) : Representable format (limit format) where
  onGrid := by
    have bits := mantissaBits_pos format
    have low := minExponent_nonpos format
    refine ⟨1, (format.exponentBias + 1 : ℕ), ?_, ?_, by omega⟩
    · rw [limit, zpow_natCast]
      simp
    · rw [abs_one]
      exact one_lt_pow₀ (by decide) (by omega)
  bounded := (abs_of_pos (limit_pos format)).le

/-- Powers of two are numbers of the format as far as its grid and its limit
reach. -/
theorem representable_two_zpow {exponent : ℤ} (low : format.minExponent ≤ exponent)
    (high : (2 : ℚ) ^ exponent ≤ limit format) : Representable format (2 ^ exponent) where
  onGrid := by
    have bits := mantissaBits_pos format
    refine ⟨1, exponent, by rw [Int.cast_one, one_mul], ?_, low⟩
    rw [abs_one]
    exact one_lt_pow₀ (by decide) (by omega)
  bounded := by rwa [abs_of_pos (by positivity)]

/-- What an unpacked number of the format stands for is a number of the
format. -/
theorem Sound.representable {u : UnpackedFloat} (sound : Sound format u) :
    Representable format (value format u) := by
  cases u with
  | notANumber => exact .zero
  | zero => exact .zero
  | infinity sign =>
      cases sign
      · exact (representable_limit format).neg
      · exact representable_limit format
  | finite sign mantissa exponent positive =>
      rcases sound with ⟨⟨small, large, -⟩, bounded⟩
      refine ⟨⟨sign.apply mantissa, exponent, ?_, ?_, large⟩, (bounded rfl).le⟩
      · rw [signed_apply, Int.cast_natCast, value, signed_mul_right]
      · cases sign <;> simp only [Sign.apply, abs_neg, Nat.abs_cast] <;> exact_mod_cast small

/-! ## The order -/

theorem mantissa_lt {exponent other : ℤ} {mantissa otherMantissa : ℕ}
    (small : mantissa < 2 ^ format.mantissaBits) (above : exponent < other)
    (low : format.minExponent ≤ exponent)
    (full : 2 ^ format.mantissaBitsWithoutImplicit ≤ otherMantissa ∨ other = format.minExponent) :
    (mantissa * 2 ^ exponent : ℚ) < otherMantissa * 2 ^ other := by
  have power : (0 : ℚ) < 2 ^ exponent := by positivity
  have normal := full.resolve_right (by omega)
  have shifted : (2 : ℚ) ^ exponent * 2 ≤ 2 ^ other := by
    rw [← zpow_add_one₀ two_ne_zero]
    exact zpow_le_zpow_right₀ one_le_two above
  calc (mantissa * 2 ^ exponent : ℚ) < 2 ^ format.mantissaBits * 2 ^ exponent := by
        have bound : (mantissa : ℚ) < 2 ^ format.mantissaBits := by exact_mod_cast small
        gcongr
    _ = 2 ^ format.mantissaBitsWithoutImplicit * (2 ^ exponent * 2) := by
        rw [Format.mantissaBits, pow_add]
        ring
    _ ≤ otherMantissa * 2 ^ other := by
        have bound : (2 : ℚ) ^ format.mantissaBitsWithoutImplicit ≤ otherMantissa := by
          exact_mod_cast normal
        gcongr

private theorem compare_magnitudes {exponent other : ℤ} {mantissa otherMantissa : ℕ}
    {sign otherSign : Sign} {positive : 0 < mantissa} {otherPositive : 0 < otherMantissa}
    (first : Canonical format (.finite sign mantissa exponent positive))
    (second : Canonical format (.finite otherSign otherMantissa other otherPositive)) :
    (compare exponent other).then (compare mantissa otherMantissa) =
      cmp (mantissa * 2 ^ exponent : ℚ) (otherMantissa * 2 ^ other) := by
  rcases lt_trichotomy exponent other with below | same | above
  · rw [compare_lt_iff_lt.mpr below]
    exact ((cmp_eq_lt_iff _ _).mpr (mantissa_lt first.1 below first.2.1 second.2.2)).symm
  · subst same
    have power : (0 : ℚ) < 2 ^ exponent := by positivity
    rw [compare_eq_iff_eq.mpr rfl]
    rcases lt_trichotomy mantissa otherMantissa with less | equal | more
    · rw [compare_lt_iff_lt.mpr less]
      exact ((cmp_eq_lt_iff _ _).mpr (by gcongr)).symm
    · rw [compare_eq_iff_eq.mpr equal, equal]
      exact (cmp_self_eq_eq _).symm
    · rw [compare_gt_iff_gt.mpr more]
      exact ((cmp_eq_gt_iff _ _).mpr (by gcongr)).symm
  · rw [compare_gt_iff_gt.mpr above]
    exact ((cmp_eq_gt_iff _ _).mpr (mantissa_lt second.1 above second.2.1 first.2.2)).symm

private theorem cmp_neg_neg (x y : ℚ) : cmp (-x) (-y) = cmp y x := by
  simp only [cmp, cmpUsing, neg_lt_neg_iff]

private theorem compare_swap (u v : UnpackedFloat) : (u.compare v).map Ordering.swap = v.compare u := by
  cases u with
  | notANumber => cases v <;> rfl
  | infinity sign =>
      cases v with
      | infinity other => cases sign <;> cases other <;> rfl
      | _ => cases sign <;> rfl
  | zero sign =>
      cases v with
      | infinity other => cases other <;> rfl
      | finite other => cases other <;> rfl
      | _ => rfl
  | finite sign mantissa exponent =>
      cases v with
      | notANumber => rfl
      | infinity other => cases sign <;> cases other <;> rfl
      | zero => cases sign <;> rfl
      | finite other =>
          cases sign <;> cases other <;>
            simp only [UnpackedFloat.compare, Option.map_some, Ordering.swap_then,
              Int.compare_swap, Nat.compare_swap] <;> rfl

/-- No number of the format is beyond an infinity. -/
private theorem compare_infinity (sign : Sign) {v : UnpackedFloat} (second : Sound format v)
    (defined : v.isNaN = false) :
    (UnpackedFloat.infinity sign).compare v =
      some (cmp (signed sign (limit format)) (value format v)) := by
  have end_pos := limit_pos format
  cases v with
  | notANumber => cases defined
  | infinity other =>
      cases sign <;> cases other <;>
        simp only [UnpackedFloat.compare, value, signed, cmp_self_eq_eq] <;> congr 1 <;> symm
      · exact (cmp_eq_lt_iff _ _).mpr (by linarith)
      · exact (cmp_eq_gt_iff _ _).mpr (by linarith)
  | zero other =>
      cases sign <;> simp only [UnpackedFloat.compare, value, signed] <;> congr 1 <;> symm
      · exact (cmp_eq_lt_iff _ _).mpr (by linarith)
      · exact (cmp_eq_gt_iff _ _).mpr (by linarith)
  | finite other mantissa exponent positive =>
      have inside := abs_lt.mp (second.bounded rfl)
      cases sign <;> simp only [UnpackedFloat.compare] <;> congr 1 <;> symm
      · exact inside.1.cmp_eq_lt
      · exact inside.2.cmp_eq_gt

private theorem compare_zero_finite (sign other : Sign) {mantissa : ℕ} {exponent : ℤ}
    (positive : 0 < mantissa) :
    (UnpackedFloat.zero sign).compare (.finite other mantissa exponent positive) =
      some (cmp 0 (signed other (mantissa * 2 ^ exponent))) := by
  have size : (0 : ℚ) < mantissa * 2 ^ exponent := by positivity
  cases other <;> simp only [UnpackedFloat.compare, signed] <;> congr 1 <;> symm
  · exact (cmp_eq_gt_iff _ _).mpr (neg_neg_of_pos size)
  · exact size.cmp_eq_lt

private theorem compare_finite {sign otherSign : Sign} {mantissa otherMantissa : ℕ}
    {exponent other : ℤ} {positive : 0 < mantissa} {otherPositive : 0 < otherMantissa}
    (first : Canonical format (.finite sign mantissa exponent positive))
    (second : Canonical format (.finite otherSign otherMantissa other otherPositive)) :
    (UnpackedFloat.finite sign mantissa exponent positive).compare
        (.finite otherSign otherMantissa other otherPositive) =
      some (cmp (signed sign (mantissa * 2 ^ exponent))
        (signed otherSign (otherMantissa * 2 ^ other))) := by
  have size : (0 : ℚ) < mantissa * 2 ^ exponent := by positivity
  have otherSize : (0 : ℚ) < otherMantissa * 2 ^ other := by positivity
  have magnitudes := compare_magnitudes first second
  cases sign <;> cases otherSign <;> simp only [UnpackedFloat.compare, signed] <;>
    apply congrArg some
  · rw [magnitudes, cmp_swap, cmp_neg_neg]
  · exact ((cmp_eq_lt_iff _ _).mpr (by linarith)).symm
  · exact ((cmp_eq_gt_iff _ _).mpr (by linarith)).symm
  · exact magnitudes

/-- Numbers that are not undefined compare as what they stand for. -/
theorem compare_eq {u v : UnpackedFloat} (first : Sound format u) (second : Sound format v)
    (defined : u.isNaN = false) (otherDefined : v.isNaN = false) :
    u.compare v = some (cmp (value format u) (value format v)) := by
  have swapped : forall {u v : UnpackedFloat},
      v.compare u = some (cmp (value format v) (value format u)) ->
      u.compare v = some (cmp (value format u) (value format v)) := by
    intro u v turned
    rw [← compare_swap, turned, Option.map_some, cmp_swap]
  cases u with
  | notANumber => cases defined
  | infinity sign => exact compare_infinity sign second otherDefined
  | zero sign =>
      cases v with
      | notANumber => cases otherDefined
      | infinity other => exact swapped (compare_infinity other first defined)
      | zero => exact congrArg some (cmp_self_eq_eq _).symm
      | finite other mantissa exponent positive => exact compare_zero_finite sign other positive
  | finite sign mantissa exponent positive =>
      cases v with
      | notANumber => cases otherDefined
      | infinity other => exact swapped (compare_infinity other first defined)
      | zero other => exact swapped (compare_zero_finite other sign positive)
      | finite => exact compare_finite first.canonical second.canonical

theorem le_iff {u v : UnpackedFloat} (first : Sound format u) (second : Sound format v)
    (defined : u.isNaN = false) (otherDefined : v.isNaN = false) :
    u.le v = true ↔ value format u ≤ value format v := by
  rw [UnpackedFloat.le, compare_eq first second defined otherDefined, Option.any_some]
  rcases lt_trichotomy (value format u) (value format v) with below | same | above
  · simp [below.cmp_eq_lt, below.le]
  · simp [same]
  · simp [above.cmp_eq_gt, above]

theorem lt_iff {u v : UnpackedFloat} (first : Sound format u) (second : Sound format v)
    (defined : u.isNaN = false) (otherDefined : v.isNaN = false) :
    u.lt v = true ↔ value format u < value format v := by
  rw [UnpackedFloat.lt, compare_eq first second defined otherDefined]
  rcases lt_trichotomy (value format u) (value format v) with below | same | above
  · simp [below.cmp_eq_lt, below]
  · simp [same]
  · simp [above.cmp_eq_gt, above.le]

/-- Nothing compares with an undefined number. -/
theorem compare_of_isNaN {u v : UnpackedFloat} (undefined : u.isNaN = true ∨ v.isNaN = true) :
    u.compare v = none := by
  cases u <;> cases v <;> simp only [UnpackedFloat.isNaN, Bool.false_eq_true, or_self] at undefined <;>
    rfl

theorem isNaN_of_compare {u v : UnpackedFloat} (comparable : u.compare v ≠ none) :
    u.isNaN = false ∧ v.isNaN = false := by
  rw [← Bool.not_eq_true, ← Bool.not_eq_true, ← not_or]
  exact fun undefined => comparable (compare_of_isNaN undefined)

theorem isNaN_of_le {u v : UnpackedFloat} (ordered : u.le v = true) :
    u.isNaN = false ∧ v.isNaN = false := by
  apply isNaN_of_compare
  intro incomparable
  rw [UnpackedFloat.le, incomparable] at ordered
  cases ordered

theorem isNaN_of_lt {u v : UnpackedFloat} (ordered : u.lt v = true) :
    u.isNaN = false ∧ v.isNaN = false := by
  apply isNaN_of_compare
  intro incomparable
  rw [UnpackedFloat.lt, incomparable] at ordered
  cases ordered

end Exact

end Starfield
