import Starfield.Proofs.Number.Rounded

namespace Starfield

open Float.Model (Format UnpackedFloat)
open Float.Model.UnpackedFloat (Sign pack unpack packComponents packedInfinity unpackSign
  unpackExponent unpackMantissa unpackSign_packComponents unpackExponent_packComponents
  unpackMantissa_packComponents unpack_packedZero)

/-!
# Packing

Packing keeps a number of the format as it is and puts what is beyond the end
of the format at the end.  So unpacking always gives a number of the format,
and what a rounding arrives at becomes the rounded number.
-/

namespace Exact

variable {format : Format}

theorem two_pow_exponentBits (format : Format) :
    2 ^ format.exponentBits = 2 * (format.exponentBias + 1) := by
  have power : 1 ≤ 2 ^ (format.exponentBits - 1) := Nat.one_le_two_pow
  have positive := format.he
  unfold Format.exponentBias
  rw [Nat.sub_add_cancel power, ← pow_succ', Nat.sub_add_cancel positive]

/-- What the three fields of a packed number stand for. -/
def ofFields (sign : Sign) (exponent : BitVec format.exponentBits)
    (mantissa : BitVec format.mantissaBitsWithoutImplicit) : UnpackedFloat :=
  if exponent = -1#_ then
    if mantissa = 0#_ then .infinity sign else .notANumber
  else if exponent = 0#_ then
    if zero : mantissa = 0#_ then .zero sign
    else .finite sign mantissa.toNat
      (exponent.toNat - (format.exponentBias + format.mantissaBitsWithoutImplicit) + 1)
      (by simpa [BitVec.toNat_pos, BitVec.pos_iff_ne_zero])
  else
    .finite sign (1#1 ++ mantissa).toNat
      (exponent.toNat - (format.exponentBias + format.mantissaBitsWithoutImplicit)) (by simp)

theorem unpack_eq_ofFields (packed : BitVec format.numBits) :
    unpack format packed =
      ofFields (Sign.ofBitVec (unpackSign packed)) (unpackExponent packed) (unpackMantissa packed) :=
  rfl

theorem unpack_packComponents (sign : Sign) (exponent : BitVec format.exponentBits)
    (mantissa : BitVec format.mantissaBitsWithoutImplicit) :
    unpack format (packComponents format sign exponent mantissa) = ofFields sign exponent mantissa := by
  rw [unpack_eq_ofFields, unpackSign_packComponents, unpackExponent_packComponents,
    unpackMantissa_packComponents, Sign.ofBitVec_toBitVec]

theorem unpack_packedInfinity (sign : Sign) :
    unpack format (packedInfinity format sign) = .infinity sign := by
  rw [packedInfinity, unpack_packComponents, ofFields, if_pos rfl]
  exact if_pos rfl

theorem zero_ne_neg_one (format : Format) : 0#(format.exponentBits) ≠ -1#_ := by
  have wide := format.he
  intro same
  have bits := congrArg BitVec.toNat same
  rw [BitVec.neg_one_eq_allOnes, BitVec.toNat_allOnes, BitVec.toNat_ofNat, Nat.zero_mod] at bits
  have power := Nat.one_lt_two_pow wide.ne'
  omega

/-- The implicit bit stands before the others. -/
theorem toNat_leading_append (mantissa : BitVec format.mantissaBitsWithoutImplicit) :
    (1#1 ++ mantissa).toNat = 2 ^ format.mantissaBitsWithoutImplicit + mantissa.toNat := by
  rw [BitVec.toNat_append, ← Nat.shiftLeft_add_eq_or_of_lt mantissa.isLt, BitVec.toNat_ofNat,
    Nat.shiftLeft_eq, Nat.mod_eq_of_lt (by decide), one_mul]

theorem toNat_leading_append_ofNat {mantissa : ℕ}
    (leading : 2 ^ format.mantissaBitsWithoutImplicit ≤ mantissa)
    (small : mantissa < 2 ^ format.mantissaBits) :
    (1#1 ++ BitVec.ofNat format.mantissaBitsWithoutImplicit mantissa).toNat = mantissa := by
  have rest : mantissa - 2 ^ format.mantissaBitsWithoutImplicit <
      2 ^ format.mantissaBitsWithoutImplicit := by
    rw [Format.mantissaBits, Nat.add_comm, pow_succ] at small
    omega
  rw [toNat_leading_append, BitVec.toNat_ofNat, ← Nat.sub_add_cancel leading, Nat.add_mod_right,
    Nat.mod_eq_of_lt rest, Nat.add_comm]

/-- The fields of a number with the implicit bit. -/
theorem ofFields_normal (sign : Sign) {biased mantissa : ℕ} {exponent : ℤ}
    (exponent_eq : exponent = biased - (format.exponentBias + format.mantissaBitsWithoutImplicit))
    (least : 0 < biased) (below : biased + 1 < 2 ^ format.exponentBits)
    (leading : 2 ^ format.mantissaBitsWithoutImplicit ≤ mantissa)
    (small : mantissa < 2 ^ format.mantissaBits) (positive : 0 < mantissa) :
    ofFields sign (BitVec.ofNat format.exponentBits biased)
        (BitVec.ofNat format.mantissaBitsWithoutImplicit mantissa) =
      .finite sign mantissa exponent positive := by
  have kept : (BitVec.ofNat format.exponentBits biased).toNat = biased :=
    Nat.mod_eq_of_lt (by omega)
  have notFull : BitVec.ofNat format.exponentBits biased ≠ -1#_ := by
    rw [← BitVec.toNat_ne_iff_ne, kept, BitVec.neg_one_eq_allOnes, BitVec.toNat_allOnes]
    omega
  have notEmpty : BitVec.ofNat format.exponentBits biased ≠ 0#_ := by
    rw [← BitVec.toNat_ne_iff_ne, kept, BitVec.toNat_ofNat, Nat.zero_mod]
    exact least.ne'
  have whole := toNat_leading_append_ofNat leading small
  rw [ofFields, if_neg notFull, if_neg notEmpty]
  congr 1
  rw [kept, exponent_eq]

/-- The fields of a number without the implicit bit. -/
theorem ofFields_subnormal (sign : Sign) {mantissa : ℕ} (positive : 0 < mantissa)
    (subnormal : mantissa < 2 ^ format.mantissaBitsWithoutImplicit) :
    ofFields sign 0#(format.exponentBits)
        (BitVec.ofNat format.mantissaBitsWithoutImplicit mantissa) =
      .finite sign mantissa format.minExponent positive := by
  have bias := minExponent_add_bias format
  have kept : (BitVec.ofNat format.mantissaBitsWithoutImplicit mantissa).toNat = mantissa :=
    Nat.mod_eq_of_lt subnormal
  have notEmpty : BitVec.ofNat format.mantissaBitsWithoutImplicit mantissa ≠ 0#_ := by
    rw [← BitVec.toNat_ne_iff_ne, kept, BitVec.toNat_ofNat, Nat.zero_mod]
    exact positive.ne'
  rw [ofFields, if_neg (zero_ne_neg_one format), if_pos rfl, dif_neg notEmpty]
  congr 1
  rw [BitVec.toNat_ofNat, Nat.zero_mod]
  omega

/-- Packing keeps a finite number of the format, unless its exponent is too
large. -/
theorem unpack_pack_finite {sign : Sign} {mantissa : ℕ} {exponent : ℤ} {positive : 0 < mantissa}
    (canonical : Canonical format (.finite sign mantissa exponent positive)) :
    unpack format (pack format (.finite sign mantissa exponent positive)) =
      if 2 ^ format.exponentBits ≤
        (exponent + format.exponentBias + format.mantissaBitsWithoutImplicit).toNat + 1 then
        .infinity sign
      else .finite sign mantissa exponent positive := by
  have bias := minExponent_add_bias format
  rcases canonical with ⟨small, low, full⟩
  unfold pack
  simp only
  split_ifs with beyond normal
  · exact unpack_packedInfinity sign
  · have leading : 2 ^ format.mantissaBitsWithoutImplicit ≤ mantissa := by
      rw [← Nat.le_log2 positive.ne']
      unfold Format.mantissaBits at normal
      omega
    rw [unpack_packComponents]
    exact ofFields_normal sign (by omega) (by omega) (not_le.mp beyond) leading small positive
  · have subnormal : mantissa < 2 ^ format.mantissaBitsWithoutImplicit := by
      rw [← Nat.log2_lt positive.ne']
      rw [← Nat.log2_lt positive.ne'] at small
      unfold Format.mantissaBits at normal small
      omega
    obtain rfl : exponent = format.minExponent := full.resolve_left (by omega)
    rw [unpack_packComponents]
    exact ofFields_subnormal sign positive subnormal

theorem limit_le_mul_zpow {mantissa : ℕ} {exponent : ℤ}
    (leading : 2 ^ format.mantissaBitsWithoutImplicit ≤ mantissa)
    (beyond : format.exponentBias + 1 ≤ format.mantissaBitsWithoutImplicit + exponent) :
    limit format ≤ mantissa * 2 ^ exponent := by
  calc limit format ≤ 2 ^ (format.mantissaBitsWithoutImplicit + exponent) := by
        rw [limit, ← zpow_natCast]
        exact zpow_le_zpow_right₀ one_le_two (by omega)
    _ = 2 ^ format.mantissaBitsWithoutImplicit * 2 ^ exponent := by
        rw [zpow_add₀ two_ne_zero, zpow_natCast]
    _ ≤ mantissa * 2 ^ exponent := by
        have bound : (2 : ℚ) ^ format.mantissaBitsWithoutImplicit ≤ mantissa := by
          exact_mod_cast leading
        gcongr

/-- What is beyond the exponents of the format is beyond its end. -/
theorem limit_le_iff (wide : 1 < format.exponentBits) {sign : Sign} {mantissa : ℕ} {exponent : ℤ}
    {positive : 0 < mantissa}
    (canonical : Canonical format (.finite sign mantissa exponent positive)) :
    2 ^ format.exponentBits ≤
        (exponent + format.exponentBias + format.mantissaBitsWithoutImplicit).toNat + 1 ↔
      limit format ≤ mantissa * 2 ^ exponent := by
  have bias := minExponent_add_bias format
  have power := two_pow_exponentBits format
  have several : 2 ^ 2 ≤ 2 ^ format.exponentBits := Nat.pow_le_pow_right (by decide) wide
  rcases canonical with ⟨small, low, full⟩
  constructor
  · intro beyond
    exact limit_le_mul_zpow (full.resolve_right (by omega)) (by omega)
  · rw [← not_imp_not, not_le, not_le]
    intro within
    calc (mantissa * 2 ^ exponent : ℚ) < 2 ^ format.mantissaBits * 2 ^ exponent := by
          have bound : (mantissa : ℚ) < 2 ^ format.mantissaBits := by exact_mod_cast small
          gcongr
      _ = 2 ^ (format.mantissaBits + exponent) := by
          rw [zpow_add₀ two_ne_zero, zpow_natCast]
      _ ≤ limit format := by
          rw [limit, ← zpow_natCast]
          refine zpow_le_zpow_right₀ one_le_two ?_
          unfold Format.mantissaBits
          omega

/-- Every packed number is a number of the format. -/
theorem sound_unpack (wide : 1 < format.exponentBits) (packed : BitVec format.numBits) :
    Sound format (unpack format packed) := by
  have bias := minExponent_add_bias format
  rw [unpack_eq_ofFields]
  generalize Sign.ofBitVec (unpackSign packed) = sign
  generalize unpackMantissa packed = mantissa
  generalize unpackExponent packed = exponent
  have inside : ∀ {m : ℕ} {e : ℤ} {positive : 0 < m},
      Canonical format (.finite sign m e positive) ->
      (e + format.exponentBias + format.mantissaBitsWithoutImplicit).toNat + 1 <
        2 ^ format.exponentBits ->
      Sound format (.finite sign m e positive) := by
    intro m e positive canonical fits
    refine ⟨canonical, fun _ => ?_⟩
    rw [value, abs_signed, abs_of_nonneg (by positivity), ← not_le, ← limit_le_iff wide canonical]
    omega
  have small := mantissa.isLt
  have several : 2 ^ 2 ≤ 2 ^ format.exponentBits := Nat.pow_le_pow_right (by decide) wide
  have double : 2 ^ format.mantissaBits = 2 * 2 ^ format.mantissaBitsWithoutImplicit := by
    rw [Format.mantissaBits, pow_add, pow_one]
  unfold ofFields
  split_ifs with special infinite subnormal zero
  · exact ⟨trivial, fun finite => by cases finite⟩
  · exact ⟨trivial, fun finite => by cases finite⟩
  · exact ⟨trivial, fun _ => by simpa [value] using limit_pos format⟩
  · have least : exponent.toNat = 0 := by rw [subnormal, BitVec.toNat_ofNat, Nat.zero_mod]
    exact inside ⟨by omega, by omega, Or.inr (by omega)⟩ (by omega)
  · have notFull : exponent.toNat ≠ 2 ^ format.exponentBits - 1 := by
      rwa [BitVec.neg_one_eq_allOnes, ← BitVec.toNat_inj, BitVec.toNat_allOnes] at special
    have notEmpty : exponent.toNat ≠ 0 := by
      rwa [← BitVec.toNat_inj, BitVec.toNat_ofNat, Nat.zero_mod] at subnormal
    have leading := toNat_leading_append mantissa
    have exponentSmall := exponent.isLt
    exact inside ⟨by omega, by omega, Or.inl (by omega)⟩ (by omega)

/-! ## Delivered results -/

/-- A finite number that is packed and unpacked is held to the end of the
format. -/
theorem Arrives.delivered (wide : 1 < format.exponentBits) {u : UnpackedFloat} {x : ℚ}
    (arrived : Arrives format u (nearest format x)) :
    (unpack format (pack format u)).isNaN = false ∧
      value format (unpack format (pack format u)) = rounded format x := by
  rcases arrived with ⟨finite, canonical, value_eq⟩
  have end_pos := limit_pos format
  rw [rounded, ← value_eq]
  cases u with
  | notANumber => cases finite
  | infinity => cases finite
  | zero sign =>
      rw [pack, unpack_packedZero]
      refine ⟨rfl, ?_⟩
      rw [value, min_eq_right end_pos.le, max_eq_right (by linarith)]
  | finite sign mantissa exponent positive =>
      have size : (0 : ℚ) < mantissa * 2 ^ exponent := by positivity
      rw [unpack_pack_finite canonical]
      simp only [limit_le_iff wide canonical]
      split_ifs with beyond
      · refine ⟨rfl, ?_⟩
        cases sign <;> simp only [value, signed]
        · rw [min_eq_right (by linarith), max_eq_left (by linarith)]
        · rw [min_eq_left beyond, max_eq_right (by linarith)]
      · refine ⟨rfl, ?_⟩
        rw [not_le] at beyond
        cases sign <;> simp only [value, signed]
        · rw [min_eq_right (by linarith), max_eq_right (by linarith)]
        · rw [min_eq_right beyond.le, max_eq_right (by linarith)]

/-- The finite numbers are those inside the ends of the format. -/
theorem Sound.isFinite_iff {u : UnpackedFloat} (sound : Sound format u) :
    u.isFinite = true ↔ u.isNaN = false ∧ |value format u| < limit format := by
  constructor
  · intro finite
    refine ⟨?_, sound.bounded finite⟩
    cases u <;> first | rfl | cases finite
  · rintro ⟨defined, within⟩
    cases u with
    | notANumber => cases defined
    | infinity sign =>
        rw [value, abs_signed, abs_of_pos (limit_pos format)] at within
        exact absurd within (lt_irrefl _)
    | zero => rfl
    | finite => rfl

end Exact

end Starfield
