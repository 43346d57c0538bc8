import Starfield.Proofs.Number.Finite

namespace Starfield

open Float.Model (Format UnpackedFloat)
open Float.Model.UnpackedFloat (Sign)

/-!
# Remainders

The remainder of a division is a number of the format, whatever the two
operands are: its digits are no finer than the finer of them and no more than
those of the divisor.  So it is exact, and only the step that makes it
nonnegative may round.
-/

namespace Exact

variable {format : Format}

/-- A remainder is not more than what is divided. -/
theorem fract_div_mul_le {x y : ℚ} (nonneg : 0 ≤ x) (positive : 0 < y) :
    Int.fract (x / y) * y ≤ x := by
  have whole : (0 : ℚ) ≤ ⌊x / y⌋ := by
    exact_mod_cast Int.floor_nonneg.mpr (div_nonneg nonneg positive.le)
  calc Int.fract (x / y) * y ≤ x / y * y := by gcongr; exact sub_le_self _ whole
    _ = x := div_mul_cancel₀ _ positive.ne'

/-- The remainder of two magnitudes on their common grid. -/
theorem fract_mul_eq {mantissa otherMantissa : ℕ} {exponent other low : ℤ}
    (otherPositive : 0 < otherMantissa) (first : low ≤ exponent) (second : low ≤ other) :
    Int.fract ((mantissa * 2 ^ exponent : ℚ) / (otherMantissa * 2 ^ other)) *
        (otherMantissa * 2 ^ other) =
      ((mantissa <<< (exponent - low).toNat % otherMantissa <<< (other - low).toNat : ℕ) : ℚ) *
        2 ^ low := by
  have scaled {m : ℕ} {e : ℤ} (above : low ≤ e) :
      (m * 2 ^ e : ℚ) = ((m <<< (e - low).toNat : ℕ) : ℚ) * 2 ^ low :=
    (decreaseExponent_fst m above).symm
  have nonzero : ((otherMantissa <<< (other - low).toNat : ℕ) : ℚ) ≠ 0 := by
    rw [Nat.shiftLeft_eq]
    positivity
  rw [scaled first, scaled second, mul_div_mul_right _ _ (by positivity),
    Int.fract_div_natCast_eq_div_natCast_mod, ← mul_assoc, div_mul_cancel₀ _ nonzero]

/-- The remainder on the common grid is a number of the format. -/
theorem representable_rest {mantissa otherMantissa : ℕ} {exponent other : ℤ} {sign otherSign : Sign}
    {positive : 0 < mantissa} {otherPositive : 0 < otherMantissa}
    (first : Sound format (.finite sign mantissa exponent positive))
    (second : Sound format (.finite otherSign otherMantissa other otherPositive)) :
    Representable format (signed sign (((mantissa <<< (exponent - min exponent other).toNat %
      otherMantissa <<< (other - min exponent other).toNat : ℕ) : ℚ) * 2 ^ min exponent other)) := by
  set low := min exponent other with low_eq
  set numerator := mantissa <<< (exponent - low).toNat with numerator_eq
  set denominator := otherMantissa <<< (other - low).toNat with denominator_eq
  rcases first.canonical with ⟨small, above, -⟩
  rcases second.canonical with ⟨otherSmall, otherAbove, -⟩
  have nonempty : 0 < denominator := by
    rw [denominator_eq, Nat.shiftLeft_eq]
    positivity
  have digits : numerator % denominator < 2 ^ format.mantissaBits := by
    rcases le_total exponent other with finer | coarser
    · have same : numerator = mantissa := by
        rw [numerator_eq, low_eq, min_eq_left finer, sub_self]
        rfl
      exact (Nat.mod_le _ _).trans_lt (same ▸ small)
    · have same : denominator = otherMantissa := by
        rw [denominator_eq, low_eq, min_eq_right coarser, sub_self]
        rfl
      exact (Nat.mod_lt _ nonempty).trans (same ▸ otherSmall)
  have shifted : (numerator * 2 ^ low : ℚ) = mantissa * 2 ^ exponent :=
    decreaseExponent_fst mantissa (min_le_left exponent other)
  have below : ((numerator % denominator : ℕ) : ℚ) * 2 ^ low ≤ mantissa * 2 ^ exponent := by
    rw [← shifted]
    have bound : ((numerator % denominator : ℕ) : ℚ) ≤ numerator := by
      exact_mod_cast Nat.mod_le _ _
    gcongr
  refine ⟨⟨sign.apply (numerator % denominator : ℕ), low, ?_, ?_, le_min above otherAbove⟩, ?_⟩
  · rw [signed_apply, Int.cast_natCast, signed_mul_right]
  · cases sign <;> simp only [Sign.apply, abs_neg, Nat.abs_cast] <;> exact_mod_cast digits
  · have inside := first.bounded rfl
    rw [value, abs_signed, abs_of_nonneg (by positivity)] at inside
    rw [abs_signed, abs_of_nonneg (by positivity)]
    exact below.trans inside.le

end Exact

namespace Single

/-- The remainder of magnitudes with the sign of the first operand.  The
division by a finite number is never undefined and never rounded. -/
theorem remainder_spec {x y : Float32} (first : IsFinite x) (second : IsFinite y)
    (nonzero : exact y ≠ 0) :
    IsFinite (remainder x y) ∧ exact (remainder x y) =
      if exact x < 0 then -(Int.fract (|exact x| / |exact y|) * |exact y|)
      else Int.fract (|exact x| / |exact y|) * |exact y| := by
  have soundness := sound x
  have otherSoundness := sound y
  unfold IsFinite at first second
  unfold remainder
  cases other : Binary.unpack y with
  | notANumber => rw [other] at second; cases second
  | infinity => rw [other] at second; cases second
  | zero => exact absurd (exact_of_unpack other) nonzero
  | finite otherSign otherMantissa otherExponent otherPositive =>
      cases unpacked : Binary.unpack x with
      | notANumber => rw [unpacked] at first; cases first
      | infinity => rw [unpacked] at first; cases first
      | zero sign =>
          have zero : exact x = 0 := exact_of_unpack unpacked
          simp [IsFinite, unpacked, zero, UnpackedFloat.isFinite]
      | finite sign mantissa exponent positive =>
          rw [unpacked] at soundness
          rw [other] at otherSoundness
          have value := Exact.representable_rest soundness otherSoundness
          have arrived : Rounds (Binary.pack _ : Float32) _ :=
            rounds_pack (@Exact.arrives_round .binary32 sign
              (mantissa <<< (exponent - min exponent otherExponent).toNat %
                otherMantissa <<< (otherExponent - min exponent otherExponent).toNat)
              (min exponent otherExponent))
          have exactly := arrived.exact_eq_of_isValue value
          rw [← Exact.fract_mul_eq otherPositive (min_le_left _ _) (min_le_right _ _),
            ← abs_exact_of_unpack unpacked, ← abs_exact_of_unpack other] at exactly
          have rest := Exact.fract_div_mul_le (abs_nonneg (exact x)) (abs_pos.mpr nonzero)
          have nonneg : 0 ≤ Int.fract (|exact x| / |exact y|) * |exact y| :=
            mul_nonneg (Int.fract_nonneg _) (abs_nonneg _)
          refine ⟨arrived.isFinite ?_, exactly.trans ?_⟩
          · rw [exactly, Exact.abs_signed, abs_of_nonneg nonneg]
            exact rest.trans_lt ((isFinite_iff x).mp (by rw [IsFinite, unpacked]; rfl)).2
          · have magnitude : (0 : ℚ) < mantissa * 2 ^ exponent := by positivity
            have place : exact x = Exact.signed sign (mantissa * 2 ^ exponent) :=
              exact_of_unpack unpacked
            rw [place]
            exact Exact.signed_eq_ite sign magnitude _

/-- What is not finite has no remainder. -/
theorem remainder_of_not_finite {x : Float32} (infinite : ¬IsFinite x) (y : Float32) :
    ¬IsDefined (remainder x y) := by
  unfold IsFinite at infinite
  unfold remainder
  cases unpacked : Binary.unpack x with
  | notANumber => cases Binary.unpack y <;> exact not_isDefined_undefined
  | infinity => cases Binary.unpack y <;> exact not_isDefined_undefined
  | zero => exact absurd (by rw [unpacked]; rfl) infinite
  | finite => exact absurd (by rw [unpacked]; rfl) infinite

/-- A number that is not negative leaves its remainder, and that needs no
rounding. -/
theorem modulo_of_nonneg {x y : Float32} (first : IsFinite x) (second : IsFinite y)
    (positive : 0 < exact y) (nonneg : 0 ≤ exact x) : IsFinite (modulo x y) ∧
      exact (modulo x y) = Int.fract (exact x / exact y) * exact y := by
  rcases remainder_spec first second positive.ne' with ⟨finite, exactly⟩
  rw [if_neg nonneg.not_gt, abs_of_nonneg nonneg, abs_of_pos positive] at exactly
  have notBelow : ¬remainder x y < 0 := by
    rw [single_lt_zero_iff finite.isDefined, exactly]
    exact (mul_nonneg (Int.fract_nonneg _) positive.le).not_gt
  unfold modulo
  rw [if_neg notBelow]
  exact ⟨finite, exactly⟩

/-- The remainder that is not negative is the exact one, rounded. -/
theorem rounds_modulo {x y : Float32} (first : IsFinite x) (second : IsFinite y)
    (positive : 0 < exact y) :
    Rounds (modulo x y) (Int.fract (exact x / exact y) * exact y) := by
  rcases remainder_spec first second positive.ne' with ⟨finite, exactly⟩
  have value := isValue_exact (remainder x y)
  rw [abs_of_pos positive] at exactly
  have negative := single_lt_zero_iff finite.isDefined
  have nonneg (q : ℚ) : 0 ≤ Int.fract q * exact y := mul_nonneg (Int.fract_nonneg q) positive.le
  unfold modulo
  simp only [negative]
  split_ifs at exactly with leftward
  · have turned : |exact x| / exact y = -(exact x / exact y) := by
      rw [abs_of_neg leftward, neg_div]
    rw [turned] at exactly
    split_ifs with below
    · have apart : Int.fract (-(exact x / exact y)) ≠ 0 := by
        intro whole
        rw [exactly, whole, zero_mul, neg_zero] at below
        exact lt_irrefl _ below
      have raised := rounds_add finite (isFinite_abs second)
      rw [exact_abs second, abs_of_pos positive, exactly] at raised
      have target : -(Int.fract (-(exact x / exact y)) * exact y) + exact y =
          Int.fract (exact x / exact y) * exact y := by
        rw [Int.fract_neg (by rwa [ne_eq, ← Int.fract_neg_eq_zero])]
        ring
      exact target ▸ raised
    · have whole : Int.fract (-(exact x / exact y)) = 0 := by
        have zero : Int.fract (-(exact x / exact y)) * exact y = 0 :=
          le_antisymm (by linarith) (nonneg _)
        exact (mul_eq_zero.mp zero).resolve_right positive.ne'
      rw [Int.fract_neg_eq_zero.mp whole, zero_mul]
      rw [whole, zero_mul, neg_zero] at exactly
      exact ⟨finite.isDefined, exactly.trans Exact.Representable.zero.rounded_eq.symm⟩
  · rw [abs_of_nonneg (not_lt.mp leftward)] at exactly
    rw [if_neg (by rw [exactly]; exact not_lt.mpr (nonneg _)), ← exactly]
    exact ⟨finite.isDefined, value.rounded_eq.symm⟩

theorem modulo_of_not_finite {x : Float32} (infinite : ¬IsFinite x) (y : Float32) :
    ¬IsDefined (modulo x y) := by
  have undefined := remainder_of_not_finite infinite y
  unfold modulo
  rwa [if_neg fun below => undefined ((lt_iff _ _).mp below).1]

end Single

end Starfield
