import Starfield.Number.Rounding
import Starfield.Proofs.Number.Largest
import Starfield.Proofs.Number.Operations

namespace Starfield

open Float.Model (Format UnpackedFloat)

/-!
# Arithmetic of both widths

A number of either width stands for a rational number.  An operation on finite
numbers gives the rounded result of the same operation on what they stand for,
and never an undefined number.  Comparisons are those of what is compared,
unless one side is undefined.
-/

/-- The operations of a width are those of its unpacked numbers. -/
class Arithmetic (α : Type) [Binary α] [Add α] [Sub α] [Mul α] [Div α] [LE α] [LT α] : Prop where
  wide : 1 < (Binary.format α).exponentBits
  /-- Every number is a packed one. -/
  packed (x : α) : Exists fun bits => Binary.unpack x = UnpackedFloat.unpack (Binary.format α) bits
  unpack_pack (u : UnpackedFloat) : Binary.unpack (Binary.pack u : α) =
    UnpackedFloat.unpack (Binary.format α) (UnpackedFloat.pack (Binary.format α) u)
  add_eq (x y : α) : x + y =
    Binary.pack (UnpackedFloat.add (Binary.format α) (Binary.unpack x) (Binary.unpack y))
  sub_eq (x y : α) : x - y =
    Binary.pack (UnpackedFloat.sub (Binary.format α) (Binary.unpack x) (Binary.unpack y))
  mul_eq (x y : α) : x * y =
    Binary.pack (UnpackedFloat.mul (Binary.format α) (Binary.unpack x) (Binary.unpack y))
  div_eq (x y : α) : x / y =
    Binary.pack (UnpackedFloat.div (Binary.format α) (Binary.unpack x) (Binary.unpack y))
  le_eq (x y : α) : x ≤ y ↔ (Binary.unpack x).le (Binary.unpack y) = true
  lt_eq (x y : α) : x < y ↔ (Binary.unpack x).lt (Binary.unpack y) = true

instance : Arithmetic Float32 where
  wide := by decide
  packed x := ⟨x.toModel.toBits.toBitVec, rfl⟩
  unpack_pack _ := rfl
  add_eq _ _ := rfl
  sub_eq _ _ := rfl
  mul_eq _ _ := rfl
  div_eq _ _ := rfl
  le_eq _ _ := decide_eq_true_iff
  lt_eq _ _ := decide_eq_true_iff

instance : Arithmetic Float where
  wide := by decide
  packed x := ⟨x.toModel.toBits.toBitVec, rfl⟩
  unpack_pack _ := rfl
  add_eq _ _ := rfl
  sub_eq _ _ := rfl
  mul_eq _ _ := rfl
  div_eq _ _ := rfl
  le_eq _ _ := decide_eq_true_iff
  lt_eq _ _ := decide_eq_true_iff

section Values

variable {α : Type} [Binary α]

/-- The rational number that a number stands for.  An infinity stands for the
end of its width, an undefined number for zero. -/
def exact (x : α) : ℚ :=
  Exact.value (Binary.format α) (Binary.unpack x)

/-- A number that is not undefined. -/
def IsDefined (x : α) : Prop :=
  (Binary.unpack x).isNaN = false

/-- A number that is neither infinite nor undefined. -/
def IsFinite (x : α) : Prop :=
  (Binary.unpack x).isFinite = true

instance (x : α) : Decidable (IsFinite x) :=
  inferInstanceAs (Decidable (_ = true))

/-- The end of a width, which only the infinities reach. -/
def limit (α : Type) [Binary α] : ℚ :=
  Exact.limit (Binary.format α)

/-- A rational number that a number of the width stands for. -/
def IsValue (α : Type) [Binary α] (x : ℚ) : Prop :=
  Exact.Representable (Binary.format α) x

/-- The value of a width that is nearest to a rational number. -/
def roundTo (α : Type) [Binary α] (x : ℚ) : ℚ :=
  Exact.rounded (Binary.format α) x

/-- A number stands for the rounded value of a rational one. -/
structure Rounds (x : α) (target : ℚ) : Prop where
  defined : IsDefined x
  exact_eq : exact x = roundTo α target

namespace Rounds

variable {x : α} {target bound : ℚ}

theorem le (rounds : Rounds x target) (value : IsValue α bound) (below : target ≤ bound) :
    exact x ≤ bound :=
  rounds.exact_eq ▸ Exact.rounded_le value below

theorem ge (rounds : Rounds x target) (value : IsValue α bound) (above : bound ≤ target) :
    bound ≤ exact x :=
  rounds.exact_eq ▸ Exact.le_rounded value above

theorem within (rounds : Rounds x target) (value : IsValue α bound) (small : |target| ≤ bound) :
    |exact x| ≤ bound := by
  have bounds := abs_le.mp small
  exact abs_le.mpr ⟨rounds.ge value.neg bounds.1, rounds.le value bounds.2⟩

/-- Rounding keeps the order of exact results. -/
theorem exact_le_exact {y : α} {other : ℚ} (rounds : Rounds x target) (others : Rounds y other)
    (ordered : target ≤ other) : exact x ≤ exact y := by
  rw [rounds.exact_eq, others.exact_eq]
  exact Exact.rounded_mono ordered

/-- A result that the width has is not rounded. -/
theorem exact_eq_of_isValue (rounds : Rounds x target) (value : IsValue α target) :
    exact x = target :=
  rounds.exact_eq.trans value.rounded_eq

end Rounds

variable [Add α] [Sub α] [Mul α] [Div α] [LE α] [LT α] [Arithmetic α]

theorem sound (x : α) : Exact.Sound (Binary.format α) (Binary.unpack x) := by
  rcases Arithmetic.packed x with ⟨bits, unpacked⟩
  rw [unpacked]
  exact Exact.sound_unpack Arithmetic.wide bits

theorem isValue_exact (x : α) : IsValue α (exact x) :=
  (sound x).representable

theorem isFinite_iff (x : α) : IsFinite x ↔ IsDefined x ∧ |exact x| < limit α :=
  (sound x).isFinite_iff

theorem IsFinite.isDefined {x : α} (finite : IsFinite x) : IsDefined x :=
  ((isFinite_iff x).mp finite).1

theorem IsFinite.abs_exact_lt {x : α} (finite : IsFinite x) : |exact x| < limit α :=
  ((isFinite_iff x).mp finite).2

theorem Rounds.isFinite {x : α} {target : ℚ} (rounds : Rounds x target)
    (inside : |exact x| < limit α) : IsFinite x :=
  (isFinite_iff x).mpr ⟨rounds.defined, inside⟩

/-- A result that the width has is finite and not rounded. -/
theorem Rounds.spec_of_isValue {x : α} {target : ℚ} (rounds : Rounds x target)
    (value : IsValue α target) (inside : |target| < limit α) : IsFinite x ∧ exact x = target := by
  have same := rounds.exact_eq_of_isValue value
  exact ⟨rounds.isFinite (same ▸ inside), same⟩

theorem Rounds.spec_of_zero {x : α} (rounds : Rounds x 0) : IsFinite x ∧ exact x = 0 :=
  rounds.spec_of_isValue .zero (abs_zero.trans_lt (Exact.limit_pos _))

/-! ## Operations -/

theorem rounds_pack {u : UnpackedFloat} {target : ℚ}
    (arrived : Exact.Arrives (Binary.format α) u (Exact.nearest (Binary.format α) target)) :
    Rounds (Binary.pack u : α) target := by
  have delivered := arrived.delivered Arithmetic.wide
  rw [← Arithmetic.unpack_pack] at delivered
  exact ⟨delivered.1, delivered.2⟩

theorem rounds_add {x y : α} (first : IsFinite x) (second : IsFinite y) :
    Rounds (x + y) (exact x + exact y) := by
  rw [Arithmetic.add_eq]
  exact rounds_pack (Exact.arrives_add (sound x) (sound y) first second)

theorem rounds_sub {x y : α} (first : IsFinite x) (second : IsFinite y) :
    Rounds (x - y) (exact x - exact y) := by
  rw [Arithmetic.sub_eq]
  exact rounds_pack (Exact.arrives_sub (sound x) (sound y) first second)

theorem rounds_mul {x y : α} (first : IsFinite x) (second : IsFinite y) :
    Rounds (x * y) (exact x * exact y) := by
  rw [Arithmetic.mul_eq]
  exact rounds_pack (Exact.arrives_mul (sound x) (sound y) first second)

theorem rounds_div {x y : α} (first : IsFinite x) (second : IsFinite y) (nonzero : exact y ≠ 0) :
    Rounds (x / y) (exact x / exact y) := by
  rw [Arithmetic.div_eq]
  exact rounds_pack (Exact.arrives_div first second nonzero)

/-- A finite number stays finite when less than half of the last step of its
width is added. -/
theorem isFinite_add {x y : α} (first : IsFinite x) (second : IsFinite y)
    (small : |exact y| < Exact.lastStep (Binary.format α) / 2) : IsFinite (x + y) := by
  have sum := rounds_add first second
  have place := (sound x).abs_value_le Arithmetic.wide first
  apply sum.isFinite
  rw [sum.exact_eq]
  apply Exact.abs_rounded_lt_limit Arithmetic.wide
  calc |exact x + exact y| ≤ |exact x| + |exact y| := abs_add_le _ _
    _ < Exact.limit (Binary.format α) - Exact.lastStep (Binary.format α) / 2 := by
        change |exact x| ≤ _ at place
        linarith

/-- Nothing is defined that an undefined number is added to. -/
theorem not_isDefined_add {x : α} (undefined : ¬IsDefined x) (y : α) : ¬IsDefined (x + y) := by
  unfold IsDefined at *
  rw [Arithmetic.add_eq, Arithmetic.unpack_pack]
  cases unpacked : Binary.unpack x with
  | notANumber =>
      have nothing : UnpackedFloat.add (Binary.format α) .notANumber (Binary.unpack y) =
          .notANumber := by
        cases Binary.unpack y <;> rfl
      rw [nothing, UnpackedFloat.pack, UnpackedFloat.unpack_packedNaN]
      exact Bool.false_ne_true.symm
  | _ => exact absurd (by rw [unpacked]; rfl) undefined

/-! ## Comparisons -/

theorem le_iff (x y : α) : x ≤ y ↔ IsDefined x ∧ IsDefined y ∧ exact x ≤ exact y := by
  rw [Arithmetic.le_eq]
  constructor
  · intro ordered
    rcases Exact.isNaN_of_le ordered with ⟨defined, otherDefined⟩
    exact ⟨defined, otherDefined, (Exact.le_iff (sound x) (sound y) defined otherDefined).mp ordered⟩
  · rintro ⟨defined, otherDefined, ordered⟩
    exact (Exact.le_iff (sound x) (sound y) defined otherDefined).mpr ordered

theorem lt_iff (x y : α) : x < y ↔ IsDefined x ∧ IsDefined y ∧ exact x < exact y := by
  rw [Arithmetic.lt_eq]
  constructor
  · intro ordered
    rcases Exact.isNaN_of_lt ordered with ⟨defined, otherDefined⟩
    exact ⟨defined, otherDefined, (Exact.lt_iff (sound x) (sound y) defined otherDefined).mp ordered⟩
  · rintro ⟨defined, otherDefined, ordered⟩
    exact (Exact.lt_iff (sound x) (sound y) defined otherDefined).mpr ordered

theorem lt_iff_exact {x y : α} (first : IsDefined x) (second : IsDefined y) :
    x < y ↔ exact x < exact y := by
  rw [lt_iff, and_iff_right first, and_iff_right second]

theorem le_iff_exact {x y : α} (first : IsDefined x) (second : IsDefined y) :
    x ≤ y ↔ exact x ≤ exact y := by
  rw [le_iff, and_iff_right first, and_iff_right second]

theorem number_le_trans {x y z : α} (first : x ≤ y) (second : y ≤ z) : x ≤ z := by
  rw [le_iff] at *
  exact ⟨first.1, second.2.1, first.2.2.trans second.2.2⟩

/-- A number does not shrink when a number that is not negative is added, not
even if the sum is rounded. -/
theorem le_add_of_nonneg {x y : α} (defined : IsDefined x) (finite : IsFinite y)
    (nonneg : 0 ≤ exact y) : x ≤ x + y := by
  by_cases inside : IsFinite x
  · have sum := rounds_add inside finite
    rw [le_iff]
    exact ⟨defined, sum.defined, sum.ge (isValue_exact x) (by linarith)⟩
  · have same : Binary.unpack (x + y) = Binary.unpack x := by
      unfold IsDefined at defined
      unfold IsFinite at inside finite
      rw [Arithmetic.add_eq, Arithmetic.unpack_pack]
      cases unpacked : Binary.unpack x with
      | notANumber => rw [unpacked] at defined; cases defined
      | infinity sign =>
          have absorbed : UnpackedFloat.add (Binary.format α) (.infinity sign) (Binary.unpack y) =
              .infinity sign := by
            cases other : Binary.unpack y with
            | zero => rfl
            | finite => rfl
            | _ => rw [other] at finite; cases finite
          rw [absorbed, UnpackedFloat.pack, Exact.unpack_packedInfinity]
      | _ => exact absurd (by rw [unpacked]; rfl) inside
    rw [Arithmetic.le_eq, same, ← Arithmetic.le_eq, le_iff]
    exact ⟨defined, defined, le_rfl⟩

/-- Of two numbers that are not undefined one is at most the other. -/
theorem not_lt_iff_le {x y : α} (first : IsDefined x) (second : IsDefined y) : ¬x < y ↔ y ≤ x := by
  rw [lt_iff_exact first second, le_iff_exact second first, not_lt]

end Values

end Starfield
