import Starfield.Proofs.Number.Decimal
import Starfield.Proofs.Number.Finite
import Starfield.Proofs.Number.Infinite

namespace Starfield

open Float.Model (Format UnpackedFloat)

/-!
# Signs, doubles and the ends of single precision

Negating and doubling do not round.  The number above all finite ones is the
only one that is neither finite nor undefined and not below zero.  It stays
above them in sums and products, except that it has no product with zero.
-/

section Packed

variable {α : Type} [Binary α] [Add α] [Sub α] [Mul α] [Div α] [LE α] [LT α] [Arithmetic α]

theorem unpack_pack_of_sound {u : UnpackedFloat} (sound : Exact.Sound (Binary.format α) u) :
    Binary.unpack (Binary.pack u : α) = u :=
  (Arithmetic.unpack_pack u).trans (sound.unpack_pack Arithmetic.wide)

end Packed

/-- The number above all finite ones. -/
theorem eq_infinity {α : Type} [Binary α] [Written α] {x : α} (defined : IsDefined x) (infinite : ¬IsFinite x)
    (nonneg : 0 ≤ exact x) : x = Binary.infinity false := by
  rcases unpack_of_not_isFinite defined infinite with ⟨sign, unpacked⟩
  rw [← Written.pack_unpack x, unpacked]
  cases sign
  · have below : exact x = -limit α := exact_of_unpack unpacked
    have room : 0 < limit α := Exact.limit_pos _
    linarith
  · rfl

variable {x y : Float32}

theorem unpack_neg (x : Float32) : Binary.unpack (-x) = (Binary.unpack x).neg :=
  unpack_pack_of_sound (sound x).neg

theorem exact_neg (x : Float32) : exact (-x) = -exact x := by
  unfold exact
  rw [unpack_neg, Exact.value_neg]

theorem isDefined_neg (defined : IsDefined x) : IsDefined (-x) := by
  unfold IsDefined at *
  rw [unpack_neg]
  cases unpacked : Binary.unpack x with
  | notANumber => rw [unpacked] at defined; cases defined
  | _ => rfl

theorem eq_endless (defined : IsDefined x) (infinite : ¬IsFinite x) (nonneg : 0 ≤ exact x) :
    x = endless :=
  eq_infinity defined infinite nonneg

theorem eq_endless_or_neg (defined : IsDefined x) (infinite : ¬IsFinite x) :
    x = endless ∨ x = -endless := by
  rcases unpack_of_not_isFinite defined infinite with ⟨sign, unpacked⟩
  rw [← Written.pack_unpack x, unpacked]
  cases sign
  · exact Or.inr rfl
  · exact Or.inl rfl

theorem exact_endless : exact endless = limit Float32 :=
  rfl

/-- A sum with a number that is not below zero, be it infinite, is not below
the other one. -/
theorem le_add_of_defined (finite : IsFinite x) (defined : IsDefined y) (nonneg : 0 ≤ exact y) :
    IsDefined (x + y) ∧ exact x ≤ exact (x + y) := by
  by_cases inside : IsFinite y
  · have ordered := (le_iff x (x + y)).mp (le_add_of_nonneg finite.isDefined inside nonneg)
    exact ⟨ordered.2.1, ordered.2.2⟩
  · rw [eq_endless defined inside nonneg, add_endless finite, exact_endless]
    exact ⟨rfl, (le_abs_self _).trans finite.abs_exact_lt.le⟩

/-! ## Products -/

theorem not_isDefined_endless_mul (finite : IsFinite x) (nothing : exact x = 0) :
    ¬IsDefined (endless * x) := by
  rcases unpack_of_isFinite finite with ⟨sign, unpacked⟩ | ⟨sign, mantissa, exponent, some, unpacked⟩
  · rw [Arithmetic.mul_eq, unpacked]
    exact not_isDefined_undefined
  · exact absurd nothing (exact_ne_zero_of_unpack unpacked)

variable {factor : Float32}

/-- Products with a factor that is not negative are in order, be they infinite,
provided that the larger one is defined. -/
theorem mul_le_mul_of_isDefined (first : IsDefined x) (nonneg : 0 ≤ exact x) (second : IsDefined y)
    (ordered : exact x ≤ exact y) (finite : IsFinite factor) (factorNonneg : 0 ≤ exact factor)
    (product : IsDefined (y * factor)) :
    IsDefined (x * factor) ∧ 0 ≤ exact (x * factor) ∧ exact (x * factor) ≤ exact (y * factor) := by
  have otherNonneg := nonneg.trans ordered
  by_cases inside : IsFinite y
  · have firstInside : IsFinite x := by
      rw [isFinite_iff, abs_of_nonneg nonneg]
      exact ⟨first, ordered.trans_lt ((le_abs_self _).trans_lt inside.abs_exact_lt)⟩
    have rounds := rounds_mul firstInside finite
    exact ⟨rounds.defined, rounds.ge .zero (mul_nonneg nonneg factorNonneg),
      rounds.exact_le_exact (rounds_mul inside finite)
        (mul_le_mul_of_nonneg_right ordered factorNonneg)⟩
  · -- An infinite product is defined only if the factor is not zero.
    rw [eq_endless second inside otherNonneg] at product ⊢
    have positive : 0 < exact factor := factorNonneg.lt_of_ne fun nothing =>
      not_isDefined_endless_mul finite nothing.symm product
    rw [endless_mul finite positive]
    by_cases firstInside : IsFinite x
    · have rounds := rounds_mul firstInside finite
      exact ⟨rounds.defined, rounds.ge .zero (mul_nonneg nonneg factorNonneg),
        (le_abs_self _).trans (isValue_exact (x * factor)).bounded⟩
    · rw [eq_endless first firstInside nonneg, endless_mul finite positive]
      exact ⟨rfl, (Exact.limit_pos _).le, le_rfl⟩

/-! ## Doubles -/

theorem exact_single_two : exact (2 : Float32) = 2 := by
  rw [exact_of_unpack (u := .finite .positive 8388608 (-22) (by decide)) rfl]
  norm_num [Exact.value, Exact.signed]

/-- The double of a number is exact, or beyond the end. -/
theorem exact_two_mul (finite : IsFinite x) (nonneg : 0 ≤ exact x) :
    IsDefined (2 * x) ∧ exact (2 * x) = min (limit Float32) (2 * exact x) := by
  have product := rounds_mul (x := (2 : Float32)) rfl finite
  rw [exact_single_two] at product
  refine ⟨product.defined, ?_⟩
  rcases le_total (2 * exact x) (limit Float32) with inside | beyond
  · rw [min_eq_right inside]
    have double : exact x * 2 ^ 1 = 2 * exact x := by ring
    refine product.exact_eq_of_isValue (double ▸ (isValue_exact x).mul_two_pow ?_)
    rwa [double, abs_of_nonneg (by positivity)]
  · rw [min_eq_left beyond]
    refine le_antisymm ((le_abs_self _).trans (isValue_exact (2 * x)).bounded) ?_
    exact product.ge (Exact.representable_limit _) beyond

end Starfield
