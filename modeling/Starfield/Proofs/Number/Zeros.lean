import Starfield.Proofs.Number.Equality
import Starfield.Proofs.Number.Signed

namespace Starfield

open Float.Model (UnpackedFloat)
open Float.Model.UnpackedFloat (Sign)

/-!
# Numbers up to the sign of zero

There are two zeros, which count as equal.  Sums, differences and comparisons
tell them apart at most by giving zeros of two signs again.
-/

theorem Exact.add_zero_comm {format : Float.Model.Format} (v : UnpackedFloat) (sign : Sign) :
    UnpackedFloat.add format v (.zero sign) = UnpackedFloat.add format (.zero sign) v := by
  cases v with
  | zero first => cases first <;> cases sign <;> rfl
  | _ => rfl

section Zeros

variable {α : Type} [Binary α]

/-- Zero, of either sign. -/
def IsZero (x : α) : Prop :=
  Exists fun sign => Binary.unpack x = .zero sign

/-- The numbers are equal, but possibly for the sign of zero. -/
def SameNumber (x y : α) : Prop :=
  x = y ∨ IsZero x ∧ IsZero y

theorem IsZero.isFinite {x : α} (zero : IsZero x) : IsFinite x := by
  rcases zero with ⟨sign, unpacked⟩
  rw [IsFinite, unpacked]
  rfl

theorem IsZero.exact_eq {x : α} (zero : IsZero x) : exact x = 0 := by
  rcases zero with ⟨sign, unpacked⟩
  rw [exact, unpacked]
  rfl

theorem isZero_of_exact_eq {x : α} (finite : IsFinite x) (nothing : exact x = 0) : IsZero x := by
  rcases unpack_of_isFinite finite with zero | ⟨sign, mantissa, exponent, some, unpacked⟩
  · exact zero
  · have size : (0 : ℚ) < mantissa * 2 ^ exponent := by positivity
    rw [exact_of_unpack unpacked] at nothing
    cases sign
    · exact absurd (neg_eq_zero.mp nothing) size.ne'
    · exact absurd nothing size.ne'

namespace SameNumber

variable {x y z : α}

theorem refl (x : α) : SameNumber x x :=
  Or.inl rfl

theorem symm (same : SameNumber x y) : SameNumber y x :=
  same.imp Eq.symm And.symm

theorem trans (first : SameNumber x y) (second : SameNumber y z) : SameNumber x z := by
  rcases first with rfl | ⟨zero, other⟩
  · exact second
  · rcases second with rfl | ⟨-, last⟩
    · exact Or.inr ⟨zero, other⟩
    · exact Or.inr ⟨zero, last⟩

theorem exact_eq (same : SameNumber x y) : exact x = exact y := by
  rcases same with rfl | ⟨zero, other⟩
  · rfl
  · rw [zero.exact_eq, other.exact_eq]

theorem isFinite_iff (same : SameNumber x y) : IsFinite x ↔ IsFinite y := by
  rcases same with rfl | ⟨zero, other⟩
  · exact Iff.rfl
  · exact iff_of_true zero.isFinite other.isFinite

end SameNumber

/-- Finite numbers that stand for the same value are the same. -/
theorem sameNumber_of_exact_eq [Written α] {x y : α} (finite : IsFinite x) (otherFinite : IsFinite y)
    (same : exact x = exact y) : SameNumber x y := by
  rcases unpack_of_isFinite finite with zero | ⟨sign, mantissa, exponent, some, unpacked⟩
  · have nothing : exact y = 0 := same ▸ IsZero.exact_eq zero
    exact Or.inr ⟨zero, isZero_of_exact_eq otherFinite nothing⟩
  rcases unpack_of_isFinite otherFinite with zero | ⟨otherSign, otherMantissa, other, otherSome, otherUnpacked⟩
  · have nothing : exact x = 0 := same.trans (IsZero.exact_eq zero)
    exact Or.inr ⟨isZero_of_exact_eq finite nothing, zero⟩
  have size : (0 : ℚ) < mantissa * 2 ^ exponent := by positivity
  have otherSize : (0 : ℚ) < otherMantissa * 2 ^ other := by positivity
  have canonical := (Written.sound x).canonical
  have otherCanonical := (Written.sound y).canonical
  rw [exact_of_unpack unpacked, exact_of_unpack otherUnpacked] at same
  rw [unpacked] at canonical
  rw [otherUnpacked] at otherCanonical
  refine Or.inl ?_
  rw [← Written.pack_unpack x, ← Written.pack_unpack y, unpacked, otherUnpacked]
  apply congrArg
  cases sign <;> cases otherSign
  · exact canonical.eq_of_value_eq otherCanonical (neg_inj.mp same)
  · exact absurd same ((neg_neg_of_pos size).trans otherSize).ne
  · exact absurd same ((neg_neg_of_pos otherSize).trans size).ne'
  · exact canonical.eq_of_value_eq otherCanonical same

section Operations

variable [Add α] [Sub α] [Mul α] [Div α] [LE α] [LT α] [Arithmetic α] {x y z : α}

/-- Apart from the zeros no two numbers stand for the same value. -/
theorem eq_of_exact_eq_of_ne_zero [Written α] (first : IsDefined x) (second : IsDefined y)
    (same : exact x = exact y) (nonzero : exact x ≠ 0) : x = y := by
  by_cases finite : IsFinite x
  · have otherFinite : IsFinite y := (isFinite_iff y).mpr ⟨second, same ▸ finite.abs_exact_lt⟩
    rcases sameNumber_of_exact_eq finite otherFinite same with equal | ⟨zero, -⟩
    · exact equal
    · exact absurd zero.exact_eq nonzero
  · have otherInfinite : ¬IsFinite y := fun inside =>
      finite ((isFinite_iff x).mpr ⟨first, same ▸ inside.abs_exact_lt⟩)
    rcases unpack_of_not_isFinite first finite with ⟨sign, unpacked⟩
    rcases unpack_of_not_isFinite second otherInfinite with ⟨other, otherUnpacked⟩
    have room : 0 < limit α := Exact.limit_pos _
    rw [exact_of_unpack unpacked, exact_of_unpack otherUnpacked] at same
    rw [← Written.pack_unpack x, ← Written.pack_unpack y, unpacked, otherUnpacked]
    cases sign <;> cases other
    · rfl
    · have sides : -limit α = limit α := same
      linarith
    · have sides : limit α = -limit α := same
      linarith
    · rfl

theorem isDefined_iff_of_sameNumber (same : SameNumber x y) : IsDefined x ↔ IsDefined y := by
  rcases same with rfl | ⟨zero, other⟩
  · exact Iff.rfl
  · exact iff_of_true zero.isFinite.isDefined other.isFinite.isDefined

theorem isZero_pack (sign : Sign) : IsZero (Binary.pack (.zero sign) : α) :=
  ⟨sign, unpack_pack_of_sound ⟨trivial, fun _ => abs_zero.trans_lt (Exact.limit_pos _)⟩⟩

/-- The sign of a zero shows in a sum only if the sum is a zero itself. -/
theorem sameNumber_zero_add (sign other : Sign) (v : UnpackedFloat) :
    SameNumber (Binary.pack (UnpackedFloat.add (Binary.format α) (.zero sign) v) : α)
      (Binary.pack (UnpackedFloat.add (Binary.format α) (.zero other) v)) := by
  cases v with
  | notANumber => exact .refl _
  | infinity => exact .refl _
  | zero last =>
      refine Or.inr ⟨?_, ?_⟩
      · cases sign <;> cases last <;> exact isZero_pack _
      · cases other <;> cases last <;> exact isZero_pack _
  | finite => exact .refl _

theorem SameNumber.add_right (same : SameNumber x y) (z : α) : SameNumber (x + z) (y + z) := by
  rcases same with rfl | ⟨⟨sign, unpacked⟩, ⟨other, otherUnpacked⟩⟩
  · exact .refl _
  · rw [Arithmetic.add_eq, Arithmetic.add_eq, unpacked, otherUnpacked]
    exact sameNumber_zero_add sign other _

theorem SameNumber.add_left (same : SameNumber x y) (z : α) : SameNumber (z + x) (z + y) := by
  rcases same with rfl | ⟨⟨sign, unpacked⟩, ⟨other, otherUnpacked⟩⟩
  · exact .refl _
  · rw [Arithmetic.add_eq, Arithmetic.add_eq, unpacked, otherUnpacked, Exact.add_zero_comm,
      Exact.add_zero_comm]
    exact sameNumber_zero_add sign other _

theorem SameNumber.sub_right (same : SameNumber x y) (z : α) : SameNumber (x - z) (y - z) := by
  rcases same with rfl | ⟨⟨sign, unpacked⟩, ⟨other, otherUnpacked⟩⟩
  · exact .refl _
  · rw [Arithmetic.sub_eq, Arithmetic.sub_eq, unpacked, otherUnpacked, Exact.sub_eq_add,
      Exact.sub_eq_add]
    exact sameNumber_zero_add sign other _

theorem SameNumber.lt_right_iff (same : SameNumber x y) (z : α) : z < x ↔ z < y := by
  rw [lt_iff z x, lt_iff z y, same.exact_eq, isDefined_iff_of_sameNumber same]

theorem SameNumber.lt_left_iff (same : SameNumber x y) (z : α) : x < z ↔ y < z := by
  rw [lt_iff x z, lt_iff y z, same.exact_eq, isDefined_iff_of_sameNumber same]

/-- Adding zero changes nothing. -/
theorem sameNumber_add_of_isZero [Written α] (zero : IsZero y) (x : α) : SameNumber (x + y) x := by
  rcases zero with ⟨sign, unpacked⟩
  rw [Arithmetic.add_eq, unpacked]
  nth_rewrite 2 [← Written.pack_unpack x]
  cases Binary.unpack x with
  | notANumber => exact .refl _
  | infinity => exact .refl _
  | zero first => exact Or.inr ⟨by cases first <;> cases sign <;> exact isZero_pack _, isZero_pack _⟩
  | finite => exact .refl _

/-- Nothing times a finite number is nothing. -/
theorem isZero_mul_of_isZero (finite : IsFinite x) (zero : IsZero y) : IsZero (x * y) := by
  have product := rounds_mul finite zero.isFinite
  rw [zero.exact_eq, mul_zero] at product
  exact isZero_of_exact_eq product.spec_of_zero.1 product.spec_of_zero.2

end Operations

end Zeros

theorem SameNumber.widen {x y : Float32} (same : SameNumber x y) :
    SameNumber (Starfield.widen x) (Starfield.widen y) := by
  have zero {x : Float32} (zero : IsZero x) : IsZero (Starfield.widen x) :=
    isZero_of_exact_eq (isFinite_widen zero.isFinite)
      ((exact_widen zero.isFinite).trans zero.exact_eq)
  rcases same with rfl | ⟨first, second⟩
  · exact .refl _
  · exact Or.inr ⟨zero first, zero second⟩

theorem SameNumber.beq {x y : Float32} (same : SameNumber x y) (defined : IsDefined y) :
    (x == y) = true :=
  (single_beq_iff x y).mpr ⟨(isDefined_iff_of_sameNumber same).mpr defined, defined, same.exact_eq⟩

end Starfield
