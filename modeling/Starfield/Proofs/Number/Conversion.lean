import Starfield.Proofs.Number.Arithmetic

namespace Starfield

open Float.Model (Format UnpackedFloat)

/-!
# Conversions

What the numbers are that come from whole numbers, from the other width and
from literals.  Widening is exact because every number of single precision is
one of double precision; narrowing rounds once.
-/

section Conversion

variable {α β : Type} [Binary α] [Binary β]

/-- A literal stands for what it unpacks to. -/
theorem exact_of_unpack {x : α} {u : UnpackedFloat} (unpacked : Binary.unpack x = u) :
    exact x = Exact.value (Binary.format α) u :=
  congrArg _ unpacked

theorem abs_exact_of_unpack {x : α} {sign : UnpackedFloat.Sign} {mantissa : ℕ} {exponent : ℤ}
    {some : 0 < mantissa} (unpacked : Binary.unpack x = .finite sign mantissa exponent some) :
    |exact x| = mantissa * 2 ^ exponent := by
  rw [exact_of_unpack unpacked, Exact.value, Exact.abs_signed, abs_of_nonneg (by positivity)]

theorem exact_ne_zero_of_unpack {x : α} {sign : UnpackedFloat.Sign} {mantissa : ℕ} {exponent : ℤ}
    {some : 0 < mantissa} (unpacked : Binary.unpack x = .finite sign mantissa exponent some) :
    exact x ≠ 0 := by
  rw [← abs_pos, abs_exact_of_unpack unpacked]
  positivity

/-- A finite number is a zero or has a mantissa. -/
theorem unpack_of_isFinite {x : α} (finite : IsFinite x) :
    (Exists fun sign => Binary.unpack x = .zero sign) ∨
      Exists fun sign => Exists fun mantissa : ℕ => Exists fun exponent : ℤ =>
        Exists fun some : 0 < mantissa => Binary.unpack x = .finite sign mantissa exponent some := by
  unfold IsFinite at finite
  cases unpacked : Binary.unpack x with
  | notANumber => rw [unpacked] at finite; cases finite
  | infinity => rw [unpacked] at finite; cases finite
  | zero sign => exact Or.inl ⟨sign, rfl⟩
  | finite sign mantissa exponent some => exact Or.inr ⟨sign, mantissa, exponent, some, rfl⟩

theorem unpack_of_not_isFinite {x : α} (defined : IsDefined x) (infinite : ¬IsFinite x) :
    Exists fun sign => Binary.unpack x = .infinity sign := by
  unfold IsDefined IsFinite at *
  cases unpacked : Binary.unpack x with
  | infinity sign => exact ⟨sign, rfl⟩
  | notANumber => rw [unpacked] at defined; cases defined
  | zero => rw [unpacked] at infinite; exact absurd rfl infinite
  | finite => rw [unpacked] at infinite; exact absurd rfl infinite

variable [Add β] [Sub β] [Mul β] [Div β] [LE β] [LT β] [Arithmetic β]

theorem rounds_convert {x : α} (finite : IsFinite x) : Rounds (Binary.convert x : β) (exact x) := by
  unfold Binary.convert
  rcases unpack_of_isFinite finite with ⟨sign, unpacked⟩ | ⟨sign, mantissa, exponent, _, unpacked⟩
  · rw [exact_of_unpack unpacked, unpacked]
    exact rounds_pack (Exact.arrives_zero sign)
  · rw [exact_of_unpack unpacked, unpacked]
    exact rounds_pack (Exact.arrives_round sign mantissa exponent)

end Conversion

/-- The step between numbers of single precision that are not small. -/
theorem le_spacing_single {x : ℚ} {n : ℕ} (large : 1 / 2 ^ n ≤ x) :
    -(n : ℤ) - 23 ≤ Exact.spacing (Binary.format Float32) x := by
  have some : 0 < x := lt_of_lt_of_le (by positivity) large
  have log : -(n : ℤ) ≤ Int.log 2 x := by
    apply (Int.zpow_le_iff_le_log (by decide) some).mp
    rw [zpow_neg, zpow_natCast, ← one_div]
    exact_mod_cast large
  refine le_trans ?_ (le_max_left _ _)
  change -(n : ℤ) - 23 ≤ Int.log 2 x + 1 - 24
  omega

theorem isFinite_single (x : Float32) : x.isFinite = true ↔ IsFinite x :=
  Iff.rfl

theorem isFinite_double (x : Float) : x.isFinite = true ↔ IsFinite x :=
  Iff.rfl

theorem exact_single_zero : exact (0 : Float32) = 0 :=
  exact_of_unpack (u := .zero .positive) rfl

theorem exact_double_zero : exact (0 : Float) = 0 :=
  exact_of_unpack (u := .zero .positive) rfl

theorem exact_single_one : exact (1 : Float32) = 1 := by
  rw [exact_of_unpack (u := .finite .positive 8388608 (-23) (by decide)) rfl]
  norm_num [Exact.value, Exact.signed]

theorem exact_single_half : exact (0.5 : Float32) = 1 / 2 := by
  rw [exact_of_unpack (u := .finite .positive 8388608 (-24) (by decide)) rfl]
  norm_num [Exact.value, Exact.signed]

theorem single_lt_zero_iff {x : Float32} (defined : IsDefined x) : x < 0 ↔ exact x < 0 := by
  rw [lt_iff, exact_single_zero]
  exact ⟨fun ordered => ordered.2.2, fun below => ⟨defined, rfl, below⟩⟩

theorem double_lt_zero_iff {x : Float} (defined : IsDefined x) : x < 0 ↔ exact x < 0 := by
  rw [lt_iff, exact_double_zero]
  exact ⟨fun ordered => ordered.2.2, fun below => ⟨defined, rfl, below⟩⟩

theorem limit_single : limit Float32 = 2 ^ 128 :=
  rfl

theorem limit_double : limit Float = 2 ^ 1024 :=
  rfl

/-- What single precision has, double precision has too. -/
theorem isValue_double_of_single {x : ℚ} (value : IsValue Float32 x) : IsValue Float x := by
  rcases value with ⟨⟨mantissa, exponent, equal, small, large⟩, bounded⟩
  refine ⟨⟨mantissa, exponent, equal, small.trans ?_, le_trans ?_ large⟩, bounded.trans ?_⟩
  · decide
  · decide
  · change (2 : ℚ) ^ 128 ≤ 2 ^ 1024
    exact pow_le_pow_right₀ one_le_two (by decide)

theorem exact_widen {x : Float32} (finite : IsFinite x) : exact (widen x) = exact x :=
  (rounds_convert finite).exact_eq_of_isValue (isValue_double_of_single (isValue_exact x))

theorem isFinite_widen {x : Float32} (finite : IsFinite x) : IsFinite (widen x) := by
  apply (rounds_convert finite).isFinite
  change |exact (widen x)| < limit Float
  rw [exact_widen finite]
  apply finite.abs_exact_lt.trans
  rw [limit_single, limit_double]
  exact pow_lt_pow_right₀ one_lt_two (by decide)

/-- Widening makes no number finite that was not. -/
theorem isFinite_widen_iff (x : Float32) : IsFinite (widen x) ↔ IsFinite x := by
  refine ⟨fun finite => ?_, isFinite_widen⟩
  unfold IsFinite at *
  unfold widen Binary.convert at finite
  cases unpacked : Binary.unpack x with
  | notANumber => rw [unpacked] at finite; cases finite
  | infinity sign => rw [unpacked] at finite; cases sign <;> cases finite
  | zero => rfl
  | finite => rfl

theorem rounds_narrow {x : Float} (finite : IsFinite x) : Rounds (narrow x) (exact x) :=
  rounds_convert finite

theorem rounds_abs {x : Float32} (finite : IsFinite x) : Rounds x.abs |exact x| := by
  have arrived := (sound x).abs.arrives ((Exact.isFinite_abs _).trans finite)
  rw [Exact.value_abs] at arrived
  exact rounds_pack arrived

theorem exact_abs {x : Float32} (finite : IsFinite x) : exact x.abs = |exact x| :=
  (rounds_abs finite).exact_eq_of_isValue (isValue_exact x).abs

theorem isFinite_abs {x : Float32} (finite : IsFinite x) : IsFinite x.abs := by
  apply (rounds_abs finite).isFinite
  rw [exact_abs finite, abs_abs]
  exact finite.abs_exact_lt

/-! ## Whole numbers -/

theorem rounds_toFloat32 (n : UInt32) : Rounds n.toFloat32 n.toNat := by
  have arrived := @Exact.arrives_normalize (Binary.format Float32) n.toNat 0 .positive
  rw [zpow_zero, mul_one, Int.cast_natCast] at arrived
  exact rounds_pack arrived

/-- Whole numbers below `2 ^ 24` are numbers of single precision. -/
theorem isValue_natCast {n : ℕ} (small : n < 2 ^ 24) : IsValue Float32 n := by
  refine ⟨⟨n, 0, by simp, ?_, by decide⟩, ?_⟩
  · rw [Nat.abs_cast]
    exact_mod_cast small
  · have bound : (n : ℚ) < 2 ^ 24 := by exact_mod_cast small
    change |(n : ℚ)| ≤ 2 ^ 128
    rw [Nat.abs_cast]
    exact bound.le.trans (pow_le_pow_right₀ one_le_two (by decide))

/-- So are their parts of a power of two, down to the finest grid. -/
theorem isValue_div_two_pow {count : ℤ} {n : ℕ} (small : |count| < 2 ^ 24) (fine : n ≤ 149) :
    IsValue Float32 (count / 2 ^ n) := by
  refine ⟨⟨count, -n, ?_, small, ?_⟩, ?_⟩
  · rw [zpow_neg, zpow_natCast, div_eq_mul_inv]
  · have least : (Binary.format Float32).minExponent = -149 := rfl
    omega
  · have bound : |(count : ℚ)| ≤ 2 ^ 24 := by exact_mod_cast small.le
    change |(count / 2 ^ n : ℚ)| ≤ 2 ^ 128
    rw [abs_div, abs_of_pos (by positivity : (0 : ℚ) < 2 ^ n)]
    calc |(count : ℚ)| / 2 ^ n ≤ |(count : ℚ)| :=
          div_le_self (abs_nonneg _) (one_le_pow₀ one_le_two)
      _ ≤ 2 ^ 128 := bound.trans (pow_le_pow_right₀ one_le_two (by decide))

theorem isValue_two_pow {n : ℕ} (small : n ≤ 128) : IsValue Float32 (2 ^ n) := by
  refine ⟨⟨1, n, by simp, by decide, le_trans (by decide) (Int.natCast_nonneg n)⟩, ?_⟩
  rw [abs_of_pos (by positivity)]
  exact pow_le_pow_right₀ one_le_two small

/-- A result below a power of two is rounded to a finite number below it. -/
theorem Rounds.within_two_pow {x : Float32} {target : ℚ} {n : ℕ} (rounds : Rounds x target)
    (small : n < 128) (within : |target| ≤ 2 ^ n) : IsFinite x ∧ |exact x| ≤ 2 ^ n := by
  have inside := rounds.within (isValue_two_pow small.le) within
  exact ⟨rounds.isFinite (inside.trans_lt (pow_lt_pow_right₀ one_lt_two small)), inside⟩

end Starfield
