import Starfield.Proofs.Number.Grid
import Starfield.Proofs.Number.Order
import Starfield.Proofs.Number.Whole
import Starfield.Proofs.Number.Zeros

namespace Starfield

open Float.Model (UnpackedFloat)

/-!
# Numbers in line

Rounding keeps numbers in order but may make them equal, and of two equal zeros
the total order puts that of the minus sign first.  So numbers are said to be in
line if they are in order and are the same, sign included, once they are equal.
Multiples of a number that is not negative are in line, and stay so when they
are added to something.
-/

section InLine

variable {α : Type} [Binary α]

/-- Numbers in order that are one number if they stand for one value. -/
structure InLine (x y : α) : Prop where
  first : IsDefined x
  second : IsDefined y
  le : exact x ≤ exact y
  same : exact x = exact y -> x = y

theorem InLine.refl {x : α} (defined : IsDefined x) : InLine x x :=
  ⟨defined, defined, le_rfl, fun _ => rfl⟩

theorem InLine.orderKey_le {place : UndefinedPlace} {x y : Float} (line : InLine x y) :
    Double.orderKey place x ≤ Double.orderKey place y := by
  rcases line.le.lt_or_eq with below | equal
  · exact (Double.orderKey_lt line.first line.second below).le
  · rw [line.same equal]

variable [Add α] [Sub α] [Mul α] [Div α] [LE α] [LT α] [Arithmetic α] [Written α] {x p q : α}

/-- A finite number and one that is not negative have a sum, which is not below
the first. -/
theorem add_spec_of_nonneg (finite : IsFinite x) (defined : IsDefined p) (nonneg : 0 ≤ exact p) :
    IsDefined (x + p) ∧ exact x ≤ exact (x + p) ∧
      (¬IsFinite p -> x + p = Binary.infinity false) := by
  by_cases inside : IsFinite p
  · have sum := rounds_add finite inside
    exact ⟨sum.defined, sum.ge (isValue_exact x) (by linarith), absurd inside⟩
  · rw [eq_infinity defined inside nonneg, add_infinity finite]
    have top : exact (Binary.infinity false : α) = limit α := exact_infinity
    refine ⟨isDefined_infinity, ?_, fun _ => rfl⟩
    exact top ▸ (le_abs_self _).trans finite.abs_exact_lt.le

/-- A number in front of numbers in line leaves them in line. -/
theorem InLine.add_left (line : InLine p q) (finite : IsFinite x) (nonneg : 0 ≤ exact p) :
    InLine (x + p) (x + q) := by
  have first := add_spec_of_nonneg finite line.first nonneg
  have second := add_spec_of_nonneg finite line.second (nonneg.trans line.le)
  by_cases inside : IsFinite q
  · have low := (abs_lt.mp inside.abs_exact_lt).2
    have firstInside : IsFinite p := (isFinite_iff p).mpr
      ⟨line.first, (abs_of_nonneg nonneg).trans_lt (line.le.trans_lt low)⟩
    have sum := rounds_add finite firstInside
    have other := rounds_add finite inside
    have ordered : exact x + exact p ≤ exact x + exact q := by linarith [line.le]
    refine ⟨first.1, second.1, sum.exact_le_exact other ordered, fun equal => ?_⟩
    by_cases nothing : exact (x + p) = 0
    · -- Only a sum that is nothing is rounded to nothing.
      have above := (isValue_exact x).add_nonpos_of_rounded (isValue_exact q)
        (other.exact_eq.symm.trans (equal.symm.trans nothing)).le
      have below := (isValue_exact x).neg.add_nonpos_of_rounded (isValue_exact p).neg (by
        rw [← neg_add, Exact.rounded_neg, neg_nonpos]
        exact (sum.exact_eq.symm.trans nothing).ge)
      rw [line.same (by linarith [line.le])]
    · exact eq_of_exact_eq_of_ne_zero first.1 second.1 equal nothing
  · have top : exact (x + q) = limit α := second.2.2 inside ▸ exact_infinity
    refine ⟨first.1, second.1, ?_, fun equal => ?_⟩
    · exact top.symm ▸ (le_abs_self _).trans (isValue_exact (x + p)).bounded
    · have room : 0 < limit α := Exact.limit_pos _
      exact eq_of_exact_eq_of_ne_zero first.1 second.1 equal ((equal.trans top).trans_ne room.ne')

end InLine

/-! ## Multiples -/

theorem toFloat_spec (n : UInt32) : IsFinite n.toFloat ∧ exact n.toFloat = n.toNat := by
  have small : n.toNat ≤ 2 ^ 52 := n.toNat_lt.le.trans (by decide)
  have inside : |(n.toNat : ℚ)| < limit Float := by
    have few : (n.toNat : ℚ) < 2 ^ 32 := by exact_mod_cast n.toNat_lt
    rw [Nat.abs_cast, limit_double]
    exact few.trans (pow_lt_pow_right₀ one_lt_two (by decide))
  exact (rounds_toFloat n.toUInt64).spec_of_isValue (isValue_double_natCast small) inside

/-- A multiple of a zero is that zero. -/
theorem toFloat_mul_of_isZero (n : UInt32) {x : Float} (zero : IsZero x) : n.toFloat * x = x := by
  rcases zero with ⟨sign, unpacked⟩
  rw [Arithmetic.mul_eq, ← Written.pack_unpack x, unpacked]
  rcases toFloat_spec n with ⟨finite, whole⟩
  rcases n.toNat.eq_zero_or_pos with none | some
  · rw [show n = 0 from UInt32.toNat_inj.mp none]
    cases sign <;> rfl
  · have positive : 0 < exact n.toFloat := by
      rw [whole]
      exact_mod_cast some
    rcases exists_unpack_of_pos finite positive with ⟨mantissa, exponent, nonzero, other⟩
    rw [other]
    cases sign <;> rfl

/-- The multiples of a number that is not negative are in line. -/
theorem inLine_mul {m n : UInt32} (ordered : m ≤ n) {x : Float} (finite : IsFinite x)
    (nonneg : 0 ≤ exact x) : InLine (m.toFloat * x) (n.toFloat * x) := by
  rcases nonneg.eq_or_lt with nothing | positive
  · have zero := isZero_of_exact_eq finite nothing.symm
    rw [toFloat_mul_of_isZero m zero, toFloat_mul_of_isZero n zero]
    exact .refl finite.isDefined
  · rcases toFloat_spec m with ⟨first, firstWhole⟩
    rcases toFloat_spec n with ⟨second, secondWhole⟩
    have fewer : (m.toNat : ℚ) ≤ n.toNat := by exact_mod_cast UInt32.le_iff_toNat_le.mp ordered
    have product := rounds_mul first finite
    have other := rounds_mul second finite
    rw [firstWhole] at product
    rw [secondWhole] at other
    refine ⟨product.defined, other.defined,
      product.exact_le_exact other (mul_le_mul_of_nonneg_right fewer nonneg), fun equal => ?_⟩
    by_cases same : m = n
    · rw [same]
    · -- The larger one is not nothing, because it counts the number once at least.
      have some : (1 : ℚ) ≤ n.toNat := by
        have apart : m.toNat ≠ n.toNat := fun both => same (UInt32.toNat_inj.mp both)
        have below := UInt32.le_iff_toNat_le.mp ordered
        exact_mod_cast (by omega : 1 ≤ n.toNat)
      have above := other.ge (isValue_exact x) (le_mul_of_one_le_left nonneg some)
      exact eq_of_exact_eq_of_ne_zero product.defined other.defined equal
        (equal.trans_ne (positive.trans_le above).ne')

end Starfield
