import Starfield.Proofs.Number.Bounds
import Starfield.Proofs.Number.Conversion

namespace Starfield

open Float.Model (Format UnpackedFloat)

/-!
# Finite results

A result is finite only if what it was made of is, and nothing that is made of
an undefined number is defined.  So one look at a result tells of every number
before it.
-/

section Operands

variable {α : Type} [Binary α] {x y : α}

theorem unpack_of_not_isDefined (undefined : ¬IsDefined x) : Binary.unpack x = .notANumber := by
  unfold IsDefined at undefined
  cases unpacked : Binary.unpack x with
  | notANumber => rfl
  | _ => exact absurd (by rw [unpacked]; rfl) undefined

variable [Add α] [Sub α] [Mul α] [Div α] [LE α] [LT α] [Arithmetic α]

/-- Packing makes nothing finite that was not. -/
theorem isFinite_of_isFinite_pack {u : UnpackedFloat} (finite : IsFinite (Binary.pack u : α)) :
    u.isFinite = true := by
  unfold IsFinite at finite
  rw [Arithmetic.unpack_pack] at finite
  cases u with
  | notANumber => rwa [UnpackedFloat.pack, UnpackedFloat.unpack_packedNaN] at finite
  | infinity sign => rwa [UnpackedFloat.pack, Exact.unpack_packedInfinity] at finite
  | zero => rfl
  | finite => rfl

theorem not_isDefined_undefined : ¬IsDefined (Binary.undefined : α) := by
  unfold IsDefined Binary.undefined
  rw [Arithmetic.unpack_pack, UnpackedFloat.pack, UnpackedFloat.unpack_packedNaN]
  exact Bool.false_ne_true.symm

theorem isFinite_operands_of_add (finite : IsFinite (x + y)) : IsFinite x ∧ IsFinite y := by
  rw [Arithmetic.add_eq] at finite
  have result := isFinite_of_isFinite_pack finite
  unfold IsFinite
  cases first : Binary.unpack x <;> cases second : Binary.unpack y <;>
    rw [first, second] at result
  case infinity.infinity sign other =>
    cases sign <;> cases other <;> cases result
  all_goals first | exact ⟨rfl, rfl⟩ | cases result

theorem isFinite_operands_of_sub (finite : IsFinite (x - y)) : IsFinite x ∧ IsFinite y := by
  rw [Arithmetic.sub_eq] at finite
  have result := isFinite_of_isFinite_pack finite
  unfold IsFinite
  cases first : Binary.unpack x <;> cases second : Binary.unpack y <;>
    rw [first, second] at result
  case infinity.infinity sign other =>
    cases sign <;> cases other <;> cases result
  all_goals first | exact ⟨rfl, rfl⟩ | cases result

theorem isFinite_operands_of_mul (finite : IsFinite (x * y)) : IsFinite x ∧ IsFinite y := by
  rw [Arithmetic.mul_eq] at finite
  have result := isFinite_of_isFinite_pack finite
  unfold IsFinite
  cases first : Binary.unpack x <;> cases second : Binary.unpack y <;>
    rw [first, second] at result <;> first | exact ⟨rfl, rfl⟩ | cases result

theorem not_isDefined_add_right (x : α) (undefined : ¬IsDefined y) : ¬IsDefined (x + y) := by
  rw [Arithmetic.add_eq, unpack_of_not_isDefined undefined]
  cases Binary.unpack x <;> exact not_isDefined_undefined

theorem not_isDefined_sub (undefined : ¬IsDefined x) (y : α) : ¬IsDefined (x - y) := by
  rw [Arithmetic.sub_eq, unpack_of_not_isDefined undefined]
  cases Binary.unpack y <;> exact not_isDefined_undefined

theorem not_isDefined_sub_right (x : α) (undefined : ¬IsDefined y) : ¬IsDefined (x - y) := by
  rw [Arithmetic.sub_eq, unpack_of_not_isDefined undefined]
  cases Binary.unpack x <;> exact not_isDefined_undefined

theorem not_isDefined_mul (undefined : ¬IsDefined x) (y : α) : ¬IsDefined (x * y) := by
  rw [Arithmetic.mul_eq, unpack_of_not_isDefined undefined]
  cases Binary.unpack y <;> exact not_isDefined_undefined

theorem not_isDefined_mul_right (x : α) (undefined : ¬IsDefined y) : ¬IsDefined (x * y) := by
  rw [Arithmetic.mul_eq, unpack_of_not_isDefined undefined]
  cases Binary.unpack x <;> exact not_isDefined_undefined

theorem not_isDefined_div (undefined : ¬IsDefined x) (y : α) : ¬IsDefined (x / y) := by
  rw [Arithmetic.div_eq, unpack_of_not_isDefined undefined]
  cases Binary.unpack y <;> exact not_isDefined_undefined

theorem not_isDefined_div_right (x : α) (undefined : ¬IsDefined y) : ¬IsDefined (x / y) := by
  rw [Arithmetic.div_eq, unpack_of_not_isDefined undefined]
  cases Binary.unpack x <;> exact not_isDefined_undefined

end Operands

theorem not_isDefined_narrow {x : Float} (undefined : ¬IsDefined x) : ¬IsDefined (narrow x) := by
  unfold narrow Binary.convert
  rw [unpack_of_not_isDefined undefined]
  exact not_isDefined_undefined

/-- An undefined number stays undefined in every interval. -/
theorem clamp_of_not_isDefined {α : Type} [Binary α] [Add α] [Sub α] [Mul α] [Div α] [LE α] [LT α]
    [Arithmetic α] [DecidableLT α] {x : α} (undefined : ¬IsDefined x) (low high : α) :
    clamp low high x = x := by
  unfold clamp
  dsimp only
  rw [if_neg fun below => undefined ((lt_iff x low).mp below).1,
    if_neg fun above => undefined ((lt_iff high x).mp above).2.1]

end Starfield
