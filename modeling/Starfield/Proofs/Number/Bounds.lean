import Starfield.Proofs.Number.Conversion

namespace Starfield

/-!
# Bounds

Moving a number into an interval, and taking the larger of two, are the same
operations on exact numbers as long as nothing is undefined.
-/

section Clamp

variable {α : Type} [Binary α] [Add α] [Sub α] [Mul α] [Div α] [LE α] [LT α] [Arithmetic α]

theorem clamp_spec [DecidableLT α] {low high x : α} (lowDefined : IsDefined low)
    (highDefined : IsDefined high) (defined : IsDefined x) (ordered : exact low ≤ exact high) :
    IsDefined (clamp low high x) ∧
      exact (clamp low high x) = max (exact low) (min (exact high) (exact x)) := by
  unfold clamp
  by_cases below : x < low
  · have left := (lt_iff_exact defined lowDefined).mp below
    have kept : ¬high < low := (not_lt_iff_le highDefined lowDefined).mpr
      ((le_iff_exact lowDefined highDefined).mpr ordered)
    rw [if_pos below, if_neg kept, min_eq_right (left.le.trans ordered), max_eq_left left.le]
    exact ⟨lowDefined, rfl⟩
  · have right : exact low ≤ exact x := by rwa [← not_lt, ← lt_iff_exact defined lowDefined]
    rw [if_neg below]
    by_cases above : high < x
    · have beyond := (lt_iff_exact highDefined defined).mp above
      rw [if_pos above, min_eq_left beyond.le, max_eq_right ordered]
      exact ⟨highDefined, rfl⟩
    · have inside : exact x ≤ exact high := by rwa [← not_lt, ← lt_iff_exact highDefined defined]
      rw [if_neg above, min_eq_right inside, max_eq_right right]
      exact ⟨defined, rfl⟩

end Clamp

/-- A number that is not negative is not raised to zero. -/
theorem Single.larger_zero {x : Float32} (defined : IsDefined x) (nonneg : 0 ≤ exact x) :
    larger x 0 = x := by
  have notBelow : ¬x < 0 := by
    rw [single_lt_zero_iff defined]
    exact nonneg.not_gt
  have notUndefined : x.isNaN = false := defined
  unfold larger
  rw [decide_eq_false notBelow, notUndefined]
  rfl

theorem Double.larger_zero {x : Float} (defined : IsDefined x) (nonneg : 0 ≤ exact x) :
    larger x 0 = x := by
  have notBelow : ¬x < 0 := by
    rw [double_lt_zero_iff defined]
    exact nonneg.not_gt
  have notUndefined : x.isNaN = false := defined
  unfold larger
  rw [decide_eq_false notBelow, notUndefined]
  rfl

end Starfield
