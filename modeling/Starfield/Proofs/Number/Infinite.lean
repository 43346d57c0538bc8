import Starfield.Proofs.Number.Conversion

namespace Starfield

open Float.Model (Format UnpackedFloat)

/-!
# Infinite numbers

Sums with an infinite number are infinite, whatever finite number stands on the
other side, and every finite number is below it.
-/

section Both

variable {α : Type} [Binary α] {x : α}

theorem exists_unpack_of_pos (finite : IsFinite x) (positive : 0 < exact x) :
    Exists fun mantissa : ℕ => Exists fun exponent : ℤ => Exists fun some : 0 < mantissa =>
      Binary.unpack x = .finite .positive mantissa exponent some := by
  rcases unpack_of_isFinite finite with ⟨sign, unpacked⟩ | ⟨sign, mantissa, exponent, some, unpacked⟩
  · rw [exact_of_unpack unpacked] at positive
    exact absurd positive (lt_irrefl 0)
  · cases sign with
    | positive => exact ⟨mantissa, exponent, some, unpacked⟩
    | negative =>
        have size : (0 : ℚ) ≤ mantissa * 2 ^ exponent := by positivity
        rw [exact_of_unpack unpacked] at positive
        exact absurd positive (not_lt.mpr (neg_nonpos.mpr size))

variable [Add α] [Sub α] [Mul α] [Div α] [LE α] [LT α] [Arithmetic α]

theorem unpack_infinity : Binary.unpack (Binary.infinity false : α) = .infinity .positive := by
  unfold Binary.infinity
  rw [if_neg Bool.false_ne_true, Arithmetic.unpack_pack, UnpackedFloat.pack,
    Exact.unpack_packedInfinity]

theorem isDefined_infinity : IsDefined (Binary.infinity false : α) := by
  rw [IsDefined, unpack_infinity]
  rfl

theorem exact_infinity : exact (Binary.infinity false : α) = limit α :=
  exact_of_unpack unpack_infinity

theorem add_infinity (finite : IsFinite x) : x + Binary.infinity false = Binary.infinity false := by
  rw [Arithmetic.add_eq, unpack_infinity]
  rcases unpack_of_isFinite finite with ⟨_, unpacked⟩ | ⟨_, _, _, _, unpacked⟩ <;>
    rw [unpacked] <;> rfl

end Both

/-- The number of single precision that is above all finite ones. -/
def endless : Float32 :=
  Binary.infinity false

variable {x : Float32}

theorem endless_div (finite : IsFinite x) (positive : 0 < exact x) : endless / x = endless := by
  rcases exists_unpack_of_pos finite positive with ⟨mantissa, exponent, some, unpacked⟩
  rw [Arithmetic.div_eq, unpacked]
  rfl

theorem mul_endless (finite : IsFinite x) (positive : 0 < exact x) : x * endless = endless := by
  rcases exists_unpack_of_pos finite positive with ⟨mantissa, exponent, some, unpacked⟩
  rw [Arithmetic.mul_eq, unpacked]
  rfl

theorem endless_mul (finite : IsFinite x) (positive : 0 < exact x) : endless * x = endless := by
  rcases exists_unpack_of_pos finite positive with ⟨mantissa, exponent, some, unpacked⟩
  rw [Arithmetic.mul_eq, unpacked]
  rfl

theorem neg_endless_mul (finite : IsFinite x) (positive : 0 < exact x) : -endless * x = -endless := by
  rcases exists_unpack_of_pos finite positive with ⟨mantissa, exponent, some, unpacked⟩
  rw [Arithmetic.mul_eq, unpacked]
  rfl

theorem sub_self_of_isFinite (finite : IsFinite x) : x - x = 0 := by
  rw [Arithmetic.sub_eq]
  rcases unpack_of_isFinite finite with ⟨sign, unpacked⟩ | ⟨sign, mantissa, exponent, some, unpacked⟩
  · rw [unpacked]
    cases sign <;> rfl
  · rw [unpacked]
    unfold UnpackedFloat.sub
    dsimp only
    rw [Int.sub_self]
    rfl

theorem add_endless (finite : IsFinite x) : x + endless = endless :=
  add_infinity finite

theorem endless_add (finite : IsFinite x) : endless + x = endless := by
  rw [Arithmetic.add_eq]
  rcases unpack_of_isFinite finite with ⟨_, unpacked⟩ | ⟨_, _, _, _, unpacked⟩ <;>
    rw [unpacked] <;> rfl

theorem sub_endless (finite : IsFinite x) : x - endless = -endless := by
  rw [Arithmetic.sub_eq]
  rcases unpack_of_isFinite finite with ⟨_, unpacked⟩ | ⟨_, _, _, _, unpacked⟩ <;>
    rw [unpacked] <;> rfl

theorem sub_neg_endless (finite : IsFinite x) : x - -endless = endless := by
  rw [Arithmetic.sub_eq]
  rcases unpack_of_isFinite finite with ⟨_, unpacked⟩ | ⟨_, _, _, _, unpacked⟩ <;>
    rw [unpacked] <;> rfl

theorem lt_endless (finite : IsFinite x) : x < endless := by
  have top : exact endless = limit Float32 := rfl
  have inside := (abs_lt.mp finite.abs_exact_lt).2
  rw [lt_iff, top]
  exact ⟨finite.isDefined, rfl, inside⟩

theorem neg_endless_lt (finite : IsFinite x) : -endless < x := by
  have bottom : exact (-endless) = -limit Float32 := rfl
  have inside := (abs_lt.mp finite.abs_exact_lt).1
  rw [lt_iff, bottom]
  exact ⟨rfl, finite.isDefined, inside⟩

/-- Every whole number of a machine word has a finite number next to it. -/
theorem isFinite_toFloat32 (n : UInt32) : IsFinite n.toFloat32 := by
  have small : |(n.toNat : ℚ)| ≤ 2 ^ 32 := by
    rw [Nat.abs_cast]
    exact_mod_cast n.toNat_lt.le
  exact ((rounds_toFloat32 n).within_two_pow (by decide) small).1

theorem toFloat32_pos {n : UInt32} (positive : 0 < n.toNat) : 0 < n.toFloat32 := by
  have least : (2 : ℚ) ^ 0 ≤ n.toNat := by
    rw [pow_zero]
    exact_mod_cast positive
  have above := (rounds_toFloat32 n).ge (isValue_two_pow (by decide)) least
  rw [lt_iff, exact_single_zero]
  exact ⟨rfl, (rounds_toFloat32 n).defined, zero_lt_one.trans_le (by rwa [pow_zero] at above)⟩

end Starfield
