import Starfield.Proofs.Number.Exact

namespace Starfield

open Float.Model (Format UnpackedFloat totalExponent)
open Float.Model.UnpackedFloat (Sign Accuracy ExtendedMantissa)

/-!
# Rounding of unpacked numbers

Unpacked numbers are rounded by shifting the mantissa to the right.  Of what
is shifted out two bits are kept: the first one, and whether any later one was
set.  Those two bits and the mantissa describe a rational number well enough
to round it, and rounding them is rounding that number.
-/

namespace Exact

/-- A mantissa and its two bits are those of a rational number. -/
structure Describes (em : ExtendedMantissa) (x : ℚ) : Prop where
  whole : ⌊x⌋ = em.mantissa
  roundBit : em.roundBit = true ↔ 1 / 2 ≤ Int.fract x
  stickyBit : em.stickyBit = true ↔ Int.fract x ≠ 0 ∧ Int.fract x ≠ 1 / 2

theorem describes_exact (mantissa : ℕ) :
    Describes (.ofMantissaAndAccuracy mantissa .exact) mantissa := by
  constructor <;> simp [ExtendedMantissa.ofMantissaAndAccuracy]

private theorem floor_and_fract {x f : ℚ} {n : ℕ} (split : x = n + f) (low : 0 ≤ f)
    (high : f < 1) : ⌊x⌋ = n ∧ Int.fract x = f := by
  have whole : ⌊x⌋ = n := Int.floor_eq_iff.mpr ⟨by push_cast; linarith, by push_cast; linarith⟩
  refine ⟨whole, ?_⟩
  rw [Int.fract, whole, Int.cast_natCast]
  linarith

namespace Describes

variable {em : ExtendedMantissa} {x : ℚ}

theorem roundedMantissa (described : Describes em x) : (em.roundedMantissa : ℤ) = toWhole x := by
  rcases em with ⟨mantissa, roundBit, stickyBit⟩
  rcases described with ⟨whole, rounding, sticking⟩
  have fraction := Int.fract_nonneg x
  unfold toWhole
  rw [whole]
  cases roundBit <;> cases stickyBit <;>
    simp only [Bool.false_eq_true, false_iff, true_iff, not_le, not_and_or, not_not] at rounding sticking
  · rw [if_pos rounding]
    rfl
  · rw [if_pos rounding]
    rfl
  · have half : Int.fract x = 1 / 2 := sticking.resolve_left (by linarith)
    rw [if_neg (by linarith), if_neg (by linarith)]
    exact Int.natCast_add _ _
  · have above := lt_of_le_of_ne rounding (Ne.symm sticking.2)
    rw [if_neg (by linarith), if_pos above]
    exact Int.natCast_add _ _

/-- The two bits are clear exactly for whole numbers. -/
theorem either_bit (described : Describes em x) :
    (em.roundBit || em.stickyBit) = true ↔ Int.fract x ≠ 0 := by
  rw [Bool.or_eq_true, described.roundBit, described.stickyBit]
  constructor
  · rintro (large | ⟨apart, -⟩) zero
    · linarith
    · exact apart zero
  · intro apart
    by_cases half : Int.fract x = 1 / 2
    · exact Or.inl half.ge
    · exact Or.inr ⟨apart, half⟩

theorem shiftRightOne (described : Describes em x) : Describes em.shiftRightOne (x / 2) := by
  have either := described.either_bit
  have low := Int.fract_nonneg x
  have high := Int.fract_lt_one x
  have split : x = em.mantissa + Int.fract x := by
    rw [← Int.cast_natCast, ← described.whole, Int.floor_add_fract]
  rcases em.mantissa.even_or_odd' with ⟨half, even | odd⟩
  · rw [even] at split
    push_cast at split
    rcases floor_and_fract (x := x / 2) (n := half) (f := Int.fract x / 2) (by linarith) (by linarith)
      (by linarith) with ⟨whole, fraction⟩
    refine ⟨?_, ?_, ?_⟩ <;> simp only [ExtendedMantissa.shiftRightOne, even]
    · rw [whole, Nat.mul_div_cancel_left half two_pos]
    · rw [fraction, Nat.mul_mod_right]
      exact iff_of_false (by decide) (by linarith)
    · rw [fraction, either]
      exact ⟨fun apart => ⟨by simpa using apart, by linarith⟩, fun apart => by simpa using apart.1⟩
  · rw [odd] at split
    push_cast at split
    rcases floor_and_fract (x := x / 2) (n := half) (f := (1 + Int.fract x) / 2) (by linarith) (by linarith)
      (by linarith) with ⟨whole, fraction⟩
    refine ⟨?_, ?_, ?_⟩ <;> simp only [ExtendedMantissa.shiftRightOne, odd]
    · rw [whole]
      congr 1
      omega
    · rw [fraction, Nat.mul_add_mod]
      exact iff_of_true (by decide) (by linarith)
    · rw [fraction, either]
      exact ⟨fun apart => ⟨by linarith, fun equal => apart (by linarith)⟩,
        fun apart zero => apart.2 (by linarith)⟩

theorem shiftRight (described : Describes em x) (count : ℕ) :
    Describes (em >>> count) (x / 2 ^ count) := by
  change Describes (count.repeat ExtendedMantissa.shiftRightOne em) _
  induction count with
  | zero => simpa [Nat.repeat] using described
  | succ count ih =>
      rw [Nat.repeat, pow_succ, ← div_div]
      exact ih.shiftRightOne

end Describes

/-! ## One rounding -/

variable {format : Format}

/-- The number with a mantissa that may be nothing. -/
def ofMantissa (sign : Sign) (mantissa : ℕ) (exponent : ℤ) : UnpackedFloat :=
  if zero : mantissa = 0 then .zero sign
  else .finite sign mantissa exponent (Nat.pos_of_ne_zero zero)

theorem roundWithAccuracy_eq (sign : Sign) (mantissa : ℕ) (exponent : ℤ) (accuracy : Accuracy) :
    UnpackedFloat.roundWithAccuracy format sign mantissa exponent accuracy =
      let first := UnpackedFloat.shiftToTargetExponent format mantissa exponent accuracy
      let second := UnpackedFloat.shiftToTargetExponent format first.1.roundedMantissa first.2 .exact
      ofMantissa sign second.1.mantissa second.2 :=
  rfl

/-- What a rounding arrives at: a finite number on its own grid. -/
structure Arrives (format : Format) (u : UnpackedFloat) (x : ℚ) : Prop where
  finite : u.isFinite = true
  canonical : Canonical format u
  value_eq : value format u = x

theorem arrives_ofMantissa {mantissa : ℕ} {exponent : ℤ} (sign : Sign)
    (small : mantissa < 2 ^ format.mantissaBits) (low : format.minExponent ≤ exponent)
    (normal : 2 ^ format.mantissaBitsWithoutImplicit ≤ mantissa ∨ exponent = format.minExponent) :
    Arrives format (ofMantissa sign mantissa exponent) (signed sign (mantissa * 2 ^ exponent)) := by
  unfold ofMantissa
  split_ifs with zero
  · exact ⟨rfl, trivial, by cases sign <;> simp [value, signed, zero]⟩
  · exact ⟨rfl, ⟨small, low, normal⟩, rfl⟩

/-- A mantissa that the first rounding has filled up to the next power of two
is carried into the exponent. -/
theorem arrives_of_carry {mantissa : ℕ} {exponent : ℤ} (sign : Sign)
    (full : mantissa ≤ 2 ^ format.mantissaBits) (low : format.minExponent ≤ exponent)
    (normal : 2 ^ format.mantissaBitsWithoutImplicit ≤ mantissa ∨ exponent = format.minExponent) :
    let shifted := UnpackedFloat.shiftToTargetExponent format mantissa exponent .exact
    Arrives format (ofMantissa sign shifted.1.mantissa shifted.2)
      (signed sign (mantissa * 2 ^ exponent)) := by
  have bits : format.mantissaBits = format.mantissaBitsWithoutImplicit + 1 :=
    Nat.add_comm _ _
  rcases full.lt_or_eq with below | equal
  · have stays : (format.targetExponent (totalExponent mantissa exponent) - exponent).toNat = 0 := by
      have log : mantissa.log2 < format.mantissaBits := by
        by_cases zero : mantissa = 0
        · simp [zero, bits]
        · exact (Nat.log2_lt zero).mpr below
      unfold Format.targetExponent totalExponent
      omega
    simp only [UnpackedFloat.shiftToTargetExponent, UnpackedFloat.shiftToExponent, stays]
    change Arrives format (ofMantissa sign mantissa (exponent + (0 : ℕ))) _
    rw [Int.natCast_zero, add_zero]
    exact arrives_ofMantissa sign below low normal
  · have moves : format.targetExponent (totalExponent mantissa exponent) = exponent + 1 := by
      rw [equal]
      unfold Format.targetExponent totalExponent
      rw [Nat.log2_two_pow]
      omega
    have half : mantissa / 2 = 2 ^ format.mantissaBitsWithoutImplicit := by
      rw [equal, bits, pow_succ, Nat.mul_div_cancel _ two_pos]
    have same : (mantissa * 2 ^ exponent : ℚ) = (mantissa / 2 : ℕ) * 2 ^ (exponent + 1) := by
      rw [half, equal, bits, zpow_add_one₀ two_ne_zero]
      push_cast
      ring
    simp only [UnpackedFloat.shiftToTargetExponent, UnpackedFloat.shiftToExponent, moves,
      add_sub_cancel_left]
    change Arrives format (ofMantissa sign (mantissa / 2) (exponent + (1 : ℕ))) _
    rw [Int.natCast_one, same]
    refine arrives_ofMantissa sign ?_ (by omega) (Or.inl half.ge)
    rw [half]
    exact Nat.pow_lt_pow_right (by decide) (by omega)

theorem Describes.bounds {mantissa : ℕ} {accuracy : Accuracy} {x : ℚ}
    (described : Describes (.ofMantissaAndAccuracy mantissa accuracy) x) :
    (mantissa : ℚ) ≤ x ∧ x < mantissa + 1 := by
  have whole := described.whole
  have kept : (ExtendedMantissa.ofMantissaAndAccuracy mantissa accuracy).mantissa = mantissa := by
    rcases accuracy with _ | (_ | _ | _) <;> rfl
  rw [kept, Int.floor_eq_iff] at whole
  exact_mod_cast whole

/-- The bits behind the mantissa do not reach the next power of two. -/
theorem Describes.log_eq {mantissa : ℕ} {accuracy : Accuracy} {x : ℚ}
    (described : Describes (.ofMantissaAndAccuracy mantissa accuracy) x) (nonzero : mantissa ≠ 0)
    (exponent : ℤ) : Int.log 2 (x * 2 ^ exponent) = mantissa.log2 + exponent := by
  rcases described.bounds with ⟨below, above⟩
  have first : (2 : ℚ) ^ mantissa.log2 ≤ mantissa := by
    exact_mod_cast Nat.log2_self_le nonzero
  have next : (mantissa : ℚ) + 1 ≤ 2 ^ (mantissa.log2 + 1) := by
    exact_mod_cast Nat.lt_log2_self
  have least : (2 : ℚ) ^ mantissa.log2 ≤ x := first.trans below
  have strict : x < 2 ^ (mantissa.log2 + 1) := above.trans_le next
  have positive : 0 < x := lt_of_lt_of_le (by positivity) least
  have size : 0 < x * 2 ^ exponent := by positivity
  apply le_antisymm
  · apply Int.lt_add_one_iff.mp
    apply (Int.lt_zpow_iff_log_lt (by decide) size).mp
    rw [add_right_comm, zpow_add₀ (by norm_num)]
    push_cast
    rw [← Nat.cast_succ, zpow_natCast]
    gcongr
  · apply (Int.zpow_le_iff_le_log (by decide) size).mp
    rw [zpow_add₀ (by norm_num), zpow_natCast]
    push_cast
    gcongr

/-- The exponent that is chosen by the mantissa is that of the grid around the
number, whatever the bits behind the mantissa are. -/
theorem Describes.targetExponent_eq {mantissa : ℕ} {exponent : ℤ} {accuracy : Accuracy} {x : ℚ}
    (described : Describes (.ofMantissaAndAccuracy mantissa accuracy) x) (positive : 0 < x)
    (placed : exponent ≤ format.targetExponent (totalExponent mantissa exponent)) :
    format.targetExponent (totalExponent mantissa exponent) =
      spacing format (x * 2 ^ exponent) := by
  have implicit := format.hm
  unfold Format.targetExponent totalExponent Format.mantissaBits at *
  unfold spacing
  by_cases zero : mantissa = 0
  · have small : Int.log 2 (x * 2 ^ exponent) < exponent := by
      have power : (0 : ℚ) < 2 ^ exponent := by positivity
      have above := described.bounds.2
      apply (Int.lt_zpow_iff_log_lt (by decide) (by positivity)).mp
      rw [zero, Nat.cast_zero, zero_add] at above
      exact (mul_lt_iff_lt_one_left power).mpr above
    subst zero
    simp only [Nat.log2_zero] at placed ⊢
    unfold Format.mantissaBits
    omega
  · rw [described.log_eq zero]
    unfold Format.mantissaBits
    omega

theorem shiftToExponent_fst (mantissa : ℕ) (exponent target : ℤ) (accuracy : Accuracy) {x : ℚ}
    (described : Describes (.ofMantissaAndAccuracy mantissa accuracy) x)
    (placed : exponent ≤ target) :
    Describes (UnpackedFloat.shiftToExponent mantissa exponent accuracy target).1
      (x * 2 ^ exponent / 2 ^ target) := by
  have shifted := described.shiftRight (target - exponent).toNat
  rwa [← zpow_natCast, Int.toNat_of_nonneg (by omega), zpow_sub₀ two_ne_zero, div_div_eq_mul_div]
    at shifted

theorem shiftToExponent_snd (mantissa : ℕ) (exponent target : ℤ) (accuracy : Accuracy)
    (placed : exponent ≤ target) :
    (UnpackedFloat.shiftToExponent mantissa exponent accuracy target).2 = target := by
  change exponent + ((target - exponent).toNat : ℤ) = target
  omega

/-- A rounding arrives at the nearest number, as long as its mantissa has all
the digits that the format can keep. -/
theorem arrives_roundWithAccuracy (sign : Sign) {mantissa : ℕ} {exponent : ℤ} {accuracy : Accuracy}
    {x : ℚ} (described : Describes (.ofMantissaAndAccuracy mantissa accuracy) x) (positive : 0 < x)
    (placed : exponent ≤ format.targetExponent (totalExponent mantissa exponent)) :
    Arrives format
      (UnpackedFloat.roundWithAccuracy format sign mantissa exponent accuracy)
      (signed sign (onGrid format (x * 2 ^ exponent))) := by
  set target := format.targetExponent (totalExponent mantissa exponent) with target_eq
  have grid : target = spacing format (x * 2 ^ exponent) :=
    described.targetExponent_eq positive placed
  set first := UnpackedFloat.shiftToExponent mantissa exponent accuracy target with first_eq
  have arrived : first.2 = target := shiftToExponent_snd mantissa exponent target accuracy placed
  have whole : (first.1.roundedMantissa : ℤ) = toWhole (x * 2 ^ exponent / 2 ^ target) :=
    (shiftToExponent_fst mantissa exponent target accuracy described placed).roundedMantissa
  have value_eq : ((first.1.roundedMantissa : ℕ) : ℚ) * 2 ^ target =
      onGrid format (x * 2 ^ exponent) := by
    rw [onGrid, ← grid, ← whole, Int.cast_natCast]
  have low : format.minExponent ≤ target := le_max_right _ _
  rw [roundWithAccuracy_eq]
  change Arrives format
    (let second := UnpackedFloat.shiftToTargetExponent format first.1.roundedMantissa first.2 .exact
     ofMantissa sign second.1.mantissa second.2) _
  rw [← value_eq, arrived]
  apply arrives_of_carry sign ?_ low ?_
  · have quotient := (div_spacing_lt format (x * 2 ^ exponent)).le
    rw [← grid] at quotient
    have rounded := toWhole_mono (quotient.trans (le_of_eq (by norm_cast :
      (2 : ℚ) ^ format.mantissaBits = ((2 ^ format.mantissaBits : ℕ) : ℤ))))
    rw [toWhole_intCast, ← whole] at rounded
    exact_mod_cast rounded
  · rw [or_iff_not_imp_right]
    intro coarse
    have size : 0 < x * 2 ^ exponent := by positivity
    have quotient := le_div_spacing size (grid ▸ coarse)
    rw [← grid] at quotient
    have rounded := toWhole_mono ((le_of_eq (by norm_cast :
      (((2 ^ format.mantissaBitsWithoutImplicit : ℕ) : ℤ) : ℚ) =
        2 ^ format.mantissaBitsWithoutImplicit)).trans quotient)
    rw [toWhole_intCast, ← whole] at rounded
    exact_mod_cast rounded

end Exact

end Starfield
