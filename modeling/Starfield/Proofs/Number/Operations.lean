import Starfield.Proofs.Number.Rounded

namespace Starfield

open Float.Model (Format UnpackedFloat totalExponent)
open Float.Model.UnpackedFloat (Sign Accuracy ExtendedMantissa)

/-!
# Arithmetic on unpacked numbers

Every operation on finite numbers arrives at the nearest number to its exact
result.  Nothing overflows here: that a result may be beyond the end of the
format is a matter of packing it.
-/

namespace Exact

variable {format : Format}

theorem nearest_signed (sign : Sign) {x : ℚ} (positive : 0 ≤ x) :
    nearest format (signed sign x) = signed sign (onGrid format x) := by
  cases sign
  · rw [signed, nearest_neg, nearest, if_pos positive]
    rfl
  · rw [signed, nearest, if_pos positive]
    rfl

/-- Numbers of the format are already where a rounding arrives. -/
theorem Sound.arrives {u : UnpackedFloat} (sound : Sound format u) (finite : u.isFinite = true) :
    Arrives format u (nearest format (value format u)) :=
  ⟨finite, sound.canonical, sound.representable.nearest_eq.symm⟩

theorem arrives_zero (sign : Sign) : Arrives format (.zero sign) (nearest format 0) :=
  ⟨rfl, trivial, Representable.zero.nearest_eq.symm⟩

/-! ## Rounding a mantissa of any size -/

theorem roundWithAccuracy_zero (sign : Sign) (exponent : ℤ) :
    UnpackedFloat.roundWithAccuracy format sign 0 exponent .exact = .zero sign := by
  have nothing (count : ℕ) :
      (ExtendedMantissa.ofMantissaAndAccuracy 0 .exact >>> count).mantissa = 0 ∧
        (ExtendedMantissa.ofMantissaAndAccuracy 0 .exact >>> count).roundedMantissa = 0 := by
    have described := (describes_exact 0).shiftRight count
    rw [Nat.cast_zero, zero_div] at described
    have whole := described.whole
    have rounded := described.roundedMantissa
    rw [Int.floor_zero] at whole
    rw [show (0 : ℚ) = ((0 : ℤ) : ℚ) from rfl, toWhole_intCast] at rounded
    exact ⟨by exact_mod_cast whole.symm, by exact_mod_cast rounded⟩
  rw [roundWithAccuracy_eq]
  simp only [UnpackedFloat.shiftToTargetExponent, UnpackedFloat.shiftToExponent, nothing, ofMantissa,
    dite_true]

theorem log2_mul_two_pow {n : ℕ} (nonzero : n ≠ 0) (count : ℕ) :
    (n * 2 ^ count).log2 = n.log2 + count := by
  induction count with
  | zero => rw [pow_zero, mul_one, add_zero]
  | succ count ih =>
      rw [pow_succ, ← mul_assoc, mul_comm, Nat.log2_two_mul (by positivity), ih, Nat.add_assoc]

theorem arrives_round (sign : Sign) (mantissa : ℕ) (exponent : ℤ) :
    Arrives format (UnpackedFloat.round format sign mantissa exponent)
      (nearest format (signed sign (mantissa * 2 ^ exponent))) := by
  rw [nearest_signed sign (by positivity)]
  unfold UnpackedFloat.round UnpackedFloat.decreaseExponent
  set target := format.targetExponent (totalExponent mantissa exponent) with target_eq
  set shift := (exponent - target).toNat with shift_eq
  change Arrives format
    (UnpackedFloat.roundWithAccuracy format sign (mantissa <<< shift) (exponent - shift) .exact) _
  rw [Nat.shiftLeft_eq]
  rcases mantissa.eq_zero_or_pos with zero | positive
  · subst zero
    rw [zero_mul, roundWithAccuracy_zero, Nat.cast_zero, zero_mul, onGrid_zero]
    exact ⟨rfl, trivial, by cases sign <;> simp [value, signed]⟩
  · have total : totalExponent (mantissa * 2 ^ shift) (exponent - shift) =
        totalExponent mantissa exponent := by
      unfold totalExponent
      rw [log2_mul_two_pow positive.ne']
      push_cast
      ring
    have same : ((mantissa * 2 ^ shift : ℕ) : ℚ) * 2 ^ (exponent - shift : ℤ) =
        mantissa * 2 ^ exponent := by
      push_cast
      rw [mul_assoc, ← zpow_natCast, ← zpow_add₀ two_ne_zero]
      congr 2
      ring
    rw [← same]
    apply arrives_roundWithAccuracy sign (describes_exact _) (by positivity)
    rw [total, ← target_eq]
    omega

theorem arrives_normalize (mantissa exponent : ℤ) (zeroSign : Sign) :
    Arrives format (UnpackedFloat.normalize format mantissa exponent zeroSign)
      (nearest format (mantissa * 2 ^ exponent)) := by
  unfold UnpackedFloat.normalize
  rcases lt_trichotomy mantissa 0 with negative | zero | positive
  · rw [compare_lt_iff_lt.mpr negative]
    have arrived := @arrives_round format .negative (-mantissa).toNat exponent
    have cast : (((-mantissa).toNat : ℕ) : ℚ) = -mantissa := by
      rw [← Int.cast_natCast, Int.toNat_of_nonneg (by omega), Int.cast_neg]
    rw [cast, signed, neg_mul, neg_neg] at arrived
    exact arrived
  · rw [compare_eq_iff_eq.mpr zero, zero, Int.cast_zero, zero_mul]
    exact arrives_zero zeroSign
  · rw [compare_gt_iff_gt.mpr positive]
    have arrived := @arrives_round format .positive mantissa.toNat exponent
    have cast : ((mantissa.toNat : ℕ) : ℚ) = mantissa := by
      rw [← Int.cast_natCast, Int.toNat_of_nonneg (by omega)]
    rw [cast] at arrived
    exact arrived

/-! ## The operations -/

theorem decreaseExponent_fst (mantissa : ℕ) {exponent target : ℤ} (below : target ≤ exponent) :
    ((UnpackedFloat.decreaseExponent mantissa exponent target).1 * 2 ^ target : ℚ) =
      mantissa * 2 ^ exponent := by
  change ((mantissa <<< (exponent - target).toNat : ℕ) : ℚ) * 2 ^ target = _
  rw [Nat.shiftLeft_eq, Nat.cast_mul, Nat.cast_pow, Nat.cast_two, mul_assoc, ← zpow_natCast,
    ← zpow_add₀ two_ne_zero, Int.toNat_of_nonneg (by omega), sub_add_cancel]

theorem arrives_add {u v : UnpackedFloat} (first : Sound format u) (second : Sound format v)
    (finite : u.isFinite = true) (otherFinite : v.isFinite = true) :
    Arrives format (UnpackedFloat.add format u v) (nearest format (value format u + value format v)) := by
  cases u with
  | notANumber => cases finite
  | infinity => cases finite
  | zero sign =>
      cases v with
      | notANumber => cases otherFinite
      | infinity => cases otherFinite
      | zero other =>
          rw [value, value, add_zero]
          cases sign <;> cases other <;> exact arrives_zero _
      | finite =>
          rw [show value format (.zero sign) = 0 from rfl, zero_add]
          exact second.arrives otherFinite
  | finite sign mantissa exponent positive =>
      cases v with
      | notANumber => cases otherFinite
      | infinity => cases otherFinite
      | zero other =>
          rw [show value format (.zero other) = 0 from rfl, add_zero]
          exact first.arrives finite
      | finite other otherMantissa otherExponent otherPositive =>
          have arrived := @arrives_normalize format
            (sign.apply (UnpackedFloat.decreaseExponent mantissa exponent (min exponent otherExponent)).1 +
              other.apply (UnpackedFloat.decreaseExponent otherMantissa otherExponent
                (min exponent otherExponent)).1)
            (min exponent otherExponent) .positive
          rw [Int.cast_add, add_mul, signed_apply, signed_apply, ← signed_mul_right,
            ← signed_mul_right, Int.cast_natCast, Int.cast_natCast,
            decreaseExponent_fst mantissa (min_le_left _ _),
            decreaseExponent_fst otherMantissa (min_le_right _ _)] at arrived
          exact arrived

theorem Sound.neg {u : UnpackedFloat} (sound : Sound format u) : Sound format u.neg := by
  rcases sound with ⟨canonical, bounded⟩
  cases u with
  | notANumber => exact ⟨trivial, bounded⟩
  | infinity => exact ⟨trivial, fun finite => by cases finite⟩
  | zero => exact ⟨trivial, bounded⟩
  | finite =>
      refine ⟨canonical, fun finite => ?_⟩
      rw [UnpackedFloat.neg, value, signed_neg, abs_neg]
      exact bounded finite

theorem value_neg (u : UnpackedFloat) : value format u.neg = -value format u := by
  cases u <;> simp only [UnpackedFloat.neg, value, signed_neg, neg_zero]

theorem isFinite_neg (u : UnpackedFloat) : u.neg.isFinite = u.isFinite := by
  cases u <;> rfl

theorem isFinite_abs (u : UnpackedFloat) : u.abs.isFinite = u.isFinite := by
  cases u <;> rfl

theorem value_abs (u : UnpackedFloat) : value format u.abs = |value format u| := by
  cases u with
  | notANumber => exact abs_zero.symm
  | infinity =>
      rw [UnpackedFloat.abs, value, value, abs_signed, abs_of_pos (limit_pos format)]
      rfl
  | zero => exact abs_zero.symm
  | finite =>
      rw [UnpackedFloat.abs, value, value, abs_signed, abs_of_nonneg (by positivity)]
      rfl

theorem Sound.abs {u : UnpackedFloat} (sound : Sound format u) : Sound format u.abs where
  canonical := by
    have canonical := sound.canonical
    cases u <;> exact canonical
  bounded finite := by
    rw [value_abs, abs_abs]
    exact sound.bounded (isFinite_abs u ▸ finite)

/-- Subtracting is adding what is negated. -/
theorem sub_eq_add (u v : UnpackedFloat) :
    UnpackedFloat.sub format u v = UnpackedFloat.add format u v.neg := by
  cases u <;> cases v <;> try rfl
  rename_i sign mantissa exponent positive other otherMantissa otherExponent otherPositive
  cases other <;> simp only [UnpackedFloat.sub, UnpackedFloat.add, UnpackedFloat.neg] <;> congr 1
  exact Int.sub_neg _ _

theorem arrives_sub {u v : UnpackedFloat} (first : Sound format u) (second : Sound format v)
    (finite : u.isFinite = true) (otherFinite : v.isFinite = true) :
    Arrives format (UnpackedFloat.sub format u v) (nearest format (value format u - value format v)) := by
  rw [sub_eq_add, sub_eq_add_neg, ← value_neg]
  exact arrives_add first second.neg finite (isFinite_neg v ▸ otherFinite)

/-- A product of two mantissas is at least as long as either of them. -/
theorem placed_mul {mantissa otherMantissa : ℕ} {exponent other : ℤ} {sign otherSign : Sign}
    {positive : 0 < mantissa} {otherPositive : 0 < otherMantissa}
    (first : Canonical format (.finite sign mantissa exponent positive))
    (second : Canonical format (.finite otherSign otherMantissa other otherPositive)) :
    exponent + other ≤
      format.targetExponent (totalExponent (mantissa * otherMantissa) (exponent + other)) := by
  have low := minExponent_nonpos format
  have long {least : ℕ} (bound : 2 ^ format.mantissaBitsWithoutImplicit ≤ least)
      (divides : least ≤ mantissa * otherMantissa) :
      format.mantissaBitsWithoutImplicit ≤ (mantissa * otherMantissa).log2 :=
    (Nat.le_log2 (by positivity)).mpr (bound.trans divides)
  unfold Format.targetExponent totalExponent Format.mantissaBits
  rcases first.2.2 with full | finest
  · have bits := long full (Nat.le_mul_of_pos_right _ otherPositive)
    omega
  · rcases second.2.2 with full | otherFinest
    · have bits := long full (Nat.le_mul_of_pos_left _ positive)
      omega
    · omega

theorem arrives_mul {u v : UnpackedFloat} (first : Sound format u) (second : Sound format v)
    (finite : u.isFinite = true) (otherFinite : v.isFinite = true) :
    Arrives format (UnpackedFloat.mul format u v) (nearest format (value format u * value format v)) := by
  cases u with
  | notANumber => cases finite
  | infinity => cases finite
  | zero sign =>
      rw [show value format (.zero sign) = 0 from rfl, zero_mul]
      cases v with
      | notANumber => cases otherFinite
      | infinity => cases otherFinite
      | zero => exact arrives_zero _
      | finite => exact arrives_zero _
  | finite sign mantissa exponent positive =>
      cases v with
      | notANumber => cases otherFinite
      | infinity => cases otherFinite
      | zero =>
          rw [value, value, mul_zero]
          exact arrives_zero _
      | finite other otherMantissa otherExponent otherPositive =>
          have product : ((mantissa * otherMantissa : ℕ) : ℚ) * 2 ^ (exponent + otherExponent) =
              mantissa * 2 ^ exponent * (otherMantissa * 2 ^ otherExponent) := by
            rw [zpow_add₀ two_ne_zero]
            push_cast
            ring
          have arrived := arrives_roundWithAccuracy (sign * other)
            (describes_exact (mantissa * otherMantissa))
            (by exact_mod_cast Nat.mul_pos positive otherPositive)
            (placed_mul first.canonical second.canonical)
          rw [product, ← nearest_signed (sign * other) (by positivity), signed_mul] at arrived
          exact arrived

/-- The remainder of a division tells what to keep of the quotient's
fraction. -/
theorem describes_quotient (numerator : ℕ) {denominator : ℕ} (positive : 0 < denominator) :
    Describes (.ofMantissaAndAccuracy (numerator / denominator)
      (UnpackedFloat.accuracyOfFraction (numerator % denominator) denominator))
      (numerator / denominator : ℚ) := by
  have size : (0 : ℚ) < denominator := by exact_mod_cast positive
  have whole : ⌊(numerator / denominator : ℚ)⌋ = ((numerator / denominator : ℕ) : ℤ) :=
    Rat.floor_natCast_div_natCast numerator denominator
  have fraction : Int.fract (numerator / denominator : ℚ) =
      ((numerator % denominator : ℕ) : ℚ) / denominator :=
    Int.fract_div_natCast_eq_div_natCast_mod
  have half : 1 / 2 ≤ ((numerator % denominator : ℕ) : ℚ) / denominator ↔
      denominator ≤ 2 * (numerator % denominator) := by
    rw [div_le_div_iff₀ two_pos size, one_mul, mul_comm]
    exact_mod_cast Iff.rfl
  have tie : ((numerator % denominator : ℕ) : ℚ) / denominator = 1 / 2 ↔
      denominator = 2 * (numerator % denominator) := by
    rw [div_eq_div_iff size.ne' two_ne_zero, one_mul, mul_comm, eq_comm]
    exact_mod_cast Iff.rfl
  have nothing : ((numerator % denominator : ℕ) : ℚ) / denominator = 0 ↔
      numerator % denominator = 0 := by
    rw [div_eq_zero_iff, or_iff_left size.ne', Nat.cast_eq_zero]
  unfold UnpackedFloat.accuracyOfFraction
  split_ifs with zero
  · refine ⟨whole, ?_, ?_⟩ <;> rw [fraction, zero] <;>
      simp [ExtendedMantissa.ofMantissaAndAccuracy]
  · rcases lt_trichotomy (2 * (numerator % denominator)) denominator with below | equal | above
    · rw [compare_lt_iff_lt.mpr below]
      refine ⟨whole, ?_, ?_⟩ <;> rw [fraction]
      · exact iff_of_false Bool.false_ne_true (half.not.mpr (by omega))
      · exact iff_of_true rfl ⟨nothing.not.mpr zero, tie.not.mpr (by omega)⟩
    · rw [compare_eq_iff_eq.mpr equal]
      refine ⟨whole, ?_, ?_⟩ <;> rw [fraction]
      · exact iff_of_true rfl (half.mpr equal.ge)
      · exact iff_of_false Bool.false_ne_true fun apart => apart.2 (tie.mpr equal.symm)
    · rw [compare_gt_iff_gt.mpr above]
      refine ⟨whole, ?_, ?_⟩ <;> rw [fraction]
      · exact iff_of_true rfl (half.mpr above.le)
      · exact iff_of_true rfl ⟨nothing.not.mpr zero, tie.not.mpr (by omega)⟩

/-- A quotient is not shorter than the lengths of the two numbers tell. -/
theorem log2_le_log2_div {numerator denominator : ℕ} (positive : 0 < numerator)
    (otherPositive : 0 < denominator) :
    numerator.log2 ≤ (numerator / denominator).log2 + 1 + denominator.log2 := by
  have next : numerator < (numerator / denominator + 1) * denominator := by
    rw [mul_comm]
    exact Nat.lt_mul_div_succ numerator otherPositive
  have bound : numerator < 2 ^ ((numerator / denominator).log2 + 1 + (denominator.log2 + 1)) := by
    rw [pow_add]
    exact next.trans_le (Nat.mul_le_mul Nat.lt_log2_self Nat.lt_log2_self.le)
  have log := (Nat.log2_lt positive.ne').mpr bound
  omega

theorem placed_div {mantissa otherMantissa : ℕ} (exponent other : ℤ) (positive : 0 < mantissa)
    (otherPositive : 0 < otherMantissa) :
    let divided := UnpackedFloat.divCore format mantissa exponent otherMantissa other
    divided.2.1 ≤ format.targetExponent (totalExponent divided.1 divided.2.1) := by
  simp only [UnpackedFloat.divCore]
  set target := min (exponent - other)
    (format.targetExponent (totalExponent mantissa exponent - totalExponent otherMantissa other))
    with target_eq
  have log := log2_le_log2_div (Nat.mul_pos positive (Nat.two_pow_pos (exponent - other - target).toNat))
    otherPositive
  rw [log2_mul_two_pow positive.ne'] at log
  rw [Nat.shiftLeft_eq]
  unfold Format.targetExponent totalExponent at *
  omega

theorem arrives_div {u v : UnpackedFloat} (finite : u.isFinite = true)
    (otherFinite : v.isFinite = true) (nonzero : value format v ≠ 0) :
    Arrives format (UnpackedFloat.div format u v) (nearest format (value format u / value format v)) := by
  cases v with
  | notANumber => cases otherFinite
  | infinity => cases otherFinite
  | zero => exact absurd rfl nonzero
  | finite other otherMantissa otherExponent otherPositive =>
      cases u with
      | notANumber => cases finite
      | infinity => cases finite
      | zero =>
          rw [show value format (.zero _) = 0 from rfl, zero_div]
          exact arrives_zero _
      | finite sign mantissa exponent positive =>
          set target := min (exponent - otherExponent) (format.targetExponent
            (totalExponent mantissa exponent - totalExponent otherMantissa otherExponent))
            with target_eq
          set shifted := mantissa <<< (exponent - otherExponent - target).toNat with shifted_eq
          have quotient : (shifted / otherMantissa : ℚ) * 2 ^ target =
              mantissa * 2 ^ exponent / (otherMantissa * 2 ^ otherExponent) := by
            have size : (otherMantissa : ℚ) ≠ 0 := by exact_mod_cast otherPositive.ne'
            rw [div_mul_eq_mul_div, mul_comm (otherMantissa : ℚ), ← div_div]
            congr 1
            rw [shifted_eq, Nat.shiftLeft_eq]
            push_cast
            rw [mul_assoc, ← zpow_natCast, ← zpow_add₀ two_ne_zero, mul_div_assoc,
              ← zpow_sub₀ two_ne_zero]
            congr 2
            omega
          have size : (0 : ℚ) < shifted / otherMantissa := by
            rw [shifted_eq, Nat.shiftLeft_eq]
            positivity
          have placed : target ≤
              format.targetExponent (totalExponent (shifted / otherMantissa) target) :=
            placed_div exponent otherExponent positive otherPositive
          have arrived := arrives_roundWithAccuracy (sign / other)
            (describes_quotient shifted otherPositive) size placed
          rw [quotient, ← nearest_signed (sign / other) (by positivity), signed_div] at arrived
          exact arrived

end Exact

end Starfield
