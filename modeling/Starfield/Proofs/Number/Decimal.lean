import Starfield.Proofs.Number.Arithmetic
import Starfield.Proofs.Number.Shortest

namespace Starfield

open Float.Model (Format UnpackedFloat totalExponent)
open Float.Model.UnpackedFloat (Sign pack unpack packComponents unpackSign unpackExponent
  unpackMantissa)

/-!
# Reading decimals

A decimal is read as the number nearest to it.  The shortest decimal of a
number lies in the number's neighbourhood, so it is read as that very number:
two numbers of one format that stand for the same rational number are the same,
and a packed number is determined by what it unpacks to.
-/

namespace Exact

variable {format : Format}

/-! ## Unpacked and packed numbers -/

/-- A finite number of the format has one mantissa and one exponent. -/
theorem Canonical.eq_of_value_eq {sign : Sign} {mantissa otherMantissa : ℕ} {exponent other : ℤ}
    {positive : 0 < mantissa} {otherPositive : 0 < otherMantissa}
    (first : Canonical format (.finite sign mantissa exponent positive))
    (second : Canonical format (.finite sign otherMantissa other otherPositive))
    (same : (mantissa * 2 ^ exponent : ℚ) = otherMantissa * 2 ^ other) :
    UnpackedFloat.finite sign mantissa exponent positive =
      .finite sign otherMantissa other otherPositive := by
  rcases lt_trichotomy exponent other with below | equal | above
  · exact absurd same (mantissa_lt first.1 below first.2.1 second.2.2).ne
  · subst equal
    have power : (2 : ℚ) ^ exponent ≠ 0 := by positivity
    have mantissas : mantissa = otherMantissa := by exact_mod_cast mul_right_cancel₀ power same
    subst mantissas
    rfl
  · exact absurd same (mantissa_lt second.1 above second.2.1 first.2.2).ne'

/-- What arrives at a finite number's value is that number. -/
theorem Arrives.eq_finite {u : UnpackedFloat} {mantissa : ℕ} {exponent : ℤ}
    {positive : 0 < mantissa} (arrived : Arrives format u (mantissa * 2 ^ exponent))
    (canonical : Canonical format (.finite .positive mantissa exponent positive)) :
    u = .finite .positive mantissa exponent positive := by
  have size : (0 : ℚ) < mantissa * 2 ^ exponent := by positivity
  rcases arrived with ⟨finite, own, value_eq⟩
  cases u with
  | notANumber => cases finite
  | infinity => cases finite
  | zero => exact absurd value_eq size.ne
  | finite sign otherMantissa other otherPositive =>
      cases sign with
      | negative =>
          have otherSize : (0 : ℚ) < otherMantissa * 2 ^ other := by positivity
          change -(otherMantissa * 2 ^ other : ℚ) = _ at value_eq
          linarith
      | positive => exact own.eq_of_value_eq canonical value_eq

/-- The three fields make up a packed number. -/
theorem packComponents_unpack (packed : BitVec format.numBits) :
    packComponents format (Sign.ofBitVec (unpackSign packed)) (unpackExponent packed)
      (unpackMantissa packed) = packed := by
  have mantissa := format.hm
  have exponent := format.he
  have signBit : (Sign.ofBitVec (unpackSign packed)).toBitVec = unpackSign packed := by
    rcases BitVec.eq_zero_or_eq_one (unpackSign packed) with zero | one
    · rw [zero]
      rfl
    · rw [one]
      rfl
  unfold packComponents
  rw [signBit]
  ext i bound
  simp only [BitVec.getElem_append, unpackSign, unpackExponent, unpackMantissa, BitVec.getElem_cast,
    BitVec.extractLsb, BitVec.getElem_extractLsb']
  rw [← BitVec.getLsbD_eq_getElem bound]
  split_ifs with low high <;> congr 1 <;> omega

/-- A mantissa with its implicit bit is packed without it. -/
theorem pack_normal (sign : Sign) {exponent : BitVec format.exponentBits}
    (notFull : exponent ≠ -1#_) (mantissa : BitVec format.mantissaBitsWithoutImplicit)
    {positive : 0 < (1#1 ++ mantissa).toNat} :
    pack format (.finite sign (1#1 ++ mantissa).toNat
      (exponent.toNat - (format.exponentBias + format.mantissaBitsWithoutImplicit)) positive) =
        packComponents format sign exponent mantissa := by
  have small := mantissa.isLt
  have exponentSmall := exponent.isLt
  have belowFull : exponent.toNat ≠ 2 ^ format.exponentBits - 1 := by
    rwa [BitVec.neg_one_eq_allOnes, Ne, ← BitVec.toNat_inj, BitVec.toNat_allOnes] at notFull
  have leading := toNat_leading_append mantissa
  have long : (1#1 ++ mantissa).toNat.log2 = format.mantissaBitsWithoutImplicit := by
    refine (Nat.log2_eq_iff (by omega)).mpr ⟨by omega, ?_⟩
    rw [pow_succ]
    omega
  have carried : BitVec.ofNat format.mantissaBitsWithoutImplicit
      (2 ^ format.mantissaBitsWithoutImplicit) = 0#_ := by
    rw [← BitVec.toNat_inj, BitVec.toNat_ofNat, Nat.mod_self]
    rfl
  have biased :
      ((exponent.toNat : ℤ) - (format.exponentBias + format.mantissaBitsWithoutImplicit) +
        format.exponentBias + format.mantissaBitsWithoutImplicit).toNat = exponent.toNat := by
    omega
  rw [pack]
  rw [biased, if_neg (by omega), if_pos (by unfold Format.mantissaBits; omega), leading,
    BitVec.ofNat_toNat, BitVec.setWidth_eq, BitVec.ofNat_add, BitVec.ofNat_toNat,
    BitVec.setWidth_eq, carried, BitVec.zero_add]

/-- What three fields stand for is packed to these fields. -/
theorem pack_ofFields (wide : 1 < format.exponentBits) (sign : Sign)
    {exponent : BitVec format.exponentBits} {mantissa : BitVec format.mantissaBitsWithoutImplicit}
    (defined : exponent = -1#_ -> mantissa = 0#_) :
    pack format (ofFields sign exponent mantissa) = packComponents format sign exponent mantissa := by
  unfold ofFields
  split_ifs with special infinite subnormal zero
  · rw [special, infinite]
    rfl
  · exact absurd (defined special) infinite
  · rw [subnormal, zero]
    rfl
  · have several : 2 ^ 2 ≤ 2 ^ format.exponentBits := Nat.pow_le_pow_right (by decide) wide
    have least : exponent.toNat = 0 := by rw [subnormal, BitVec.toNat_ofNat, Nat.zero_mod]
    have positive : mantissa.toNat ≠ 0 := by
      rwa [← BitVec.toNat_inj, BitVec.toNat_ofNat, Nat.zero_mod] at zero
    have short : mantissa.toNat.log2 < format.mantissaBitsWithoutImplicit :=
      (Nat.log2_lt positive).mpr mantissa.isLt
    rw [pack]
    rw [if_neg (by omega), if_neg (by unfold Format.mantissaBits; omega), BitVec.ofNat_toNat,
      BitVec.setWidth_eq, subnormal]
  · exact pack_normal sign special mantissa

/-- Packing takes back what was unpacked, as long as there is one undefined
number. -/
theorem pack_unpack (wide : 1 < format.exponentBits) {packed : BitVec format.numBits}
    (valid : format.Valid packed) : pack format (unpack format packed) = packed := by
  rw [unpack_eq_ofFields]
  by_cases defined : unpackExponent packed = -1#_ -> unpackMantissa packed = 0#_
  · rw [pack_ofFields wide _ defined, packComponents_unpack]
  · rw [Classical.not_imp] at defined
    rw [ofFields, if_pos defined.1, if_neg defined.2]
    exact (valid.eq_packedNaN defined.1 defined.2).symm

/-- Unpacking takes back what was packed, as long as it is a number of the
format. -/
theorem Sound.unpack_pack (wide : 1 < format.exponentBits) {u : UnpackedFloat}
    (sound : Sound format u) : unpack format (pack format u) = u := by
  cases u with
  | notANumber => exact UnpackedFloat.unpack_packedNaN
  | infinity sign => exact unpack_packedInfinity sign
  | zero sign => exact UnpackedFloat.unpack_packedZero
  | finite sign mantissa exponent positive =>
      have inside := sound.bounded rfl
      rw [value, abs_signed, abs_of_nonneg (by positivity), ← not_le,
        ← limit_le_iff wide sound.canonical] at inside
      rw [unpack_pack_finite sound.canonical, if_neg inside]

/-! ## Rounding a decimal -/

theorem arrives_ofScientific {digits : ℕ} (positive : 0 < digits) {exponent : ℤ}
    (low : -2 ^ format.exponentBits ≤ exponent) (high : exponent ≤ 2 ^ format.exponentBits) :
    Arrives format (UnpackedFloat.ofScientific format digits exponent)
      (nearest format (digits * 10 ^ exponent)) := by
  unfold UnpackedFloat.ofScientific
  rw [dif_neg positive.ne', if_neg (by omega), if_neg (by omega)]
  split_ifs with whole
  · set factor := 10 ^ exponent.toNat with factor_eq
    set product := (digits <<< format.mantissaBits) * factor with product_eq
    have size : 0 < product := by
      rw [product_eq, Nat.shiftLeft_eq]
      positivity
    have long : format.mantissaBits ≤ product.log2 := by
      rw [Nat.le_log2 size.ne', product_eq, Nat.shiftLeft_eq, mul_assoc, mul_left_comm]
      exact Nat.le_mul_of_pos_right _ (by positivity)
    have power : (10 : ℚ) ^ exponent = 10 ^ exponent.toNat := by
      rw [← zpow_natCast, Int.toNat_of_nonneg whole]
    have exact_eq : (product : ℚ) * 2 ^ (-format.mantissaBits + 0 : ℤ) = digits * 10 ^ exponent := by
      rw [product_eq, factor_eq, Nat.shiftLeft_eq, add_zero, zpow_neg, zpow_natCast, power]
      push_cast
      field_simp
    have placed : (-format.mantissaBits + 0 : ℤ) ≤
        format.targetExponent (totalExponent product (-format.mantissaBits + 0)) := by
      unfold Format.targetExponent totalExponent
      omega
    have arrived := arrives_roundWithAccuracy (.positive * .positive) (describes_exact product)
      (by exact_mod_cast size) placed
    rw [exact_eq, ← nearest_signed _ (by positivity)] at arrived
    exact arrived
  · set numerator : UnpackedFloat := .finite .positive digits 0 positive with numerator_eq
    set denominator : UnpackedFloat :=
      .finite .positive (10 ^ (-exponent).toNat) 0 (by positivity) with denominator_eq
    have arrived : Arrives format (numerator.div format denominator) _ :=
      arrives_div rfl rfl (by simp [denominator_eq, value, signed])
    have quotient : value format numerator / value format denominator = digits * 10 ^ exponent := by
      rw [numerator_eq, denominator_eq]
      simp only [value, signed, zpow_zero, mul_one]
      push_cast
      rw [← zpow_natCast, Int.toNat_of_nonneg (by omega), zpow_neg, div_inv_eq_mul]
    rw [quotient] at arrived
    exact arrived

/-- The exponent of a shortest decimal is one that the reader takes. -/
theorem coarsest_le {mantissa : ℕ} {exponent : ℤ} {positive : 0 < mantissa}
    (sound : Sound format (.finite .positive mantissa exponent positive)) :
    Shortest.coarsest (mantissa.log2 + 1 + exponent) ≤ 2 ^ format.exponentBits := by
  have inside := sound.bounded rfl
  rw [value, abs_signed, abs_of_nonneg (by positivity)] at inside
  have bound : (2 : ℚ) ^ (mantissa.log2 + exponent : ℤ) < 2 ^ ((format.exponentBias + 1 : ℕ) : ℤ) := by
    rw [zpow_natCast]
    refine lt_of_le_of_lt ?_ inside
    rw [zpow_add₀ two_ne_zero, zpow_natCast]
    gcongr
    exact_mod_cast Nat.log2_self_le positive.ne'
  have logs := (zpow_lt_zpow_iff_right₀ one_lt_two).mp bound
  have power := two_pow_exponentBits format
  unfold Shortest.coarsest
  split_ifs <;> zify at power <;> omega

end Exact

/-! ## Both widths -/

/-- What reading and writing the numbers of a width rests on. -/
class Written (α : Type) [Binary α] : Prop where
  wide : 1 < (Binary.format α).exponentBits
  least : -2 ^ (Binary.format α).exponentBits ≤ (Binary.format α).minExponent
  sound (x : α) : Exact.Sound (Binary.format α) (Binary.unpack x)
  unpack_pack (u : UnpackedFloat) : Binary.unpack (Binary.pack u : α) =
    unpack (Binary.format α) (pack (Binary.format α) u)
  pack_unpack (x : α) : Binary.pack (Binary.unpack x) = x
  ofDecimal_eq (digits : ℕ) (exponent : ℤ) : (Binary.ofDecimal digits exponent : α) =
    Binary.pack (UnpackedFloat.ofScientific (Binary.format α) digits exponent)
  negate_eq (x : α) : Binary.negate x = Binary.pack (Binary.unpack x).neg

instance : Written Float32 where
  wide := by decide
  least := by decide
  sound := sound
  unpack_pack _ := rfl
  pack_unpack x := by
    rcases x with ⟨bits, valid⟩
    have same := @Exact.pack_unpack .binary32 (by decide) bits.toBitVec valid
    exact congrArg Float32.ofModel ((Float32.Model.mk.injEq ..).mpr (congrArg UInt32.ofBitVec same))
  ofDecimal_eq _ _ := rfl
  negate_eq _ := rfl

instance : Written Float where
  wide := by decide
  least := by decide
  sound := sound
  unpack_pack _ := rfl
  pack_unpack x := by
    rcases x with ⟨bits, valid⟩
    have same := @Exact.pack_unpack .binary64 (by decide) bits.toBitVec valid
    exact congrArg Float.ofModel ((Float.Model.mk.injEq ..).mpr (congrArg UInt64.ofBitVec same))
  ofDecimal_eq _ _ := rfl
  negate_eq _ := rfl

section Reading

variable {α : Type} [Binary α] [Written α]

/-- A decimal in the neighbourhood of a number is read as its magnitude. -/
theorem ofDecimal_of_holds {mantissa : ℕ} {exponent : ℤ} {positive : 0 < mantissa}
    (canonical : Exact.Canonical (Binary.format α) (.finite .positive mantissa exponent positive))
    {digits : ℕ} {power : ℤ}
    (holds : (Shortest.neighbourhood (Binary.format α) mantissa exponent).Holds
      (digits * 10 ^ power)) (low : -2 ^ (Binary.format α).exponentBits ≤ power)
    (high : power ≤ 2 ^ (Binary.format α).exponentBits) :
    (Binary.ofDecimal digits power : α) =
      Binary.pack (.finite .positive mantissa exponent positive) := by
  have nearest := Exact.onGrid_of_holds canonical holds
  have some : 0 < digits := by
    rw [Nat.pos_iff_ne_zero]
    rintro rfl
    have size : (0 : ℚ) < mantissa * 2 ^ exponent := by positivity
    rw [Nat.cast_zero, zero_mul, Exact.onGrid_zero] at nearest
    linarith
  have arrived := Exact.arrives_ofScientific some low high
  rw [Exact.nearest, if_pos (by positivity), nearest] at arrived
  rw [Written.ofDecimal_eq, arrived.eq_finite canonical]

/-- A decimal that is as large as the shortest one of a number, and written
with its exponent or with one place, is read as that number. -/
theorem ofSignedDecimal_of_shortest {x : α} {sign : Sign} {mantissa : ℕ} {exponent : ℤ}
    {positive : 0 < mantissa} (unpacked : Binary.unpack x = .finite sign mantissa exponent positive)
    {decimal : Decimal} {tie : Tie}
    (written : shortest tie (Binary.format α) mantissa exponent = decimal) {digits : ℕ} {power : ℤ}
    (same : (digits * 10 ^ power : ℚ) = decimal.digits * 10 ^ decimal.exponent)
    (placed : power = decimal.exponent ∨ power = -1) :
    Binary.ofSignedDecimal (sign == .negative) digits power = x := by
  have sound := Written.sound x
  rw [unpacked] at sound
  have magnitude : Exact.Sound (Binary.format α) (.finite .positive mantissa exponent positive) := by
    cases sign
    · exact sound.neg
    · exact sound
  rcases shortest_spec tie (Binary.format α) positive exponent with ⟨other, reached, low, high, holds⟩
  rw [written] at reached
  subst reached
  rw [← same] at holds
  have least := magnitude.canonical.2.1
  have widest := Exact.coarsest_le magnitude
  have formatLeast := Written.least (α := α)
  have one : (1 : ℤ) ≤ 2 ^ (Binary.format α).exponentBits := one_le_pow₀ one_le_two
  have read := ofDecimal_of_holds (α := α) magnitude.canonical holds (by omega) (by omega)
  rw [Binary.ofSignedDecimal, read]
  cases sign with
  | positive =>
      change Binary.pack (.finite .positive mantissa exponent positive) = x
      rw [← unpacked, Written.pack_unpack]
  | negative =>
      change Binary.negate (Binary.pack (.finite .positive mantissa exponent positive)) = x
      rw [Written.negate_eq, Written.unpack_pack, magnitude.unpack_pack Written.wide]
      change Binary.pack (.finite .negative mantissa exponent positive) = x
      rw [← unpacked, Written.pack_unpack]

end Reading

end Starfield
