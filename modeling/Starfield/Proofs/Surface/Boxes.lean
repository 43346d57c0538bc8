import Starfield.Proofs.Surface.Coverage

namespace Starfield

/-!
# Boxes that leave nothing out

The box around a disc is found by rounded sums that are rounded once more to
whole numbers, apart from the distances that decide which pixels are covered.
Both roundings are monotone, and the centers of pixels are not rounded, so a
pixel whose center is nearer than the reach on both axes lies in the box.  What
lies outside of the box has no strokes, and painting the box is painting all
pixels.
-/

namespace Single

variable {x : Float32}

/-- What is not positive is raised to zero. -/
theorem larger_zero_of_nonpos (nonpos : exact x ≤ 0) :
    IsDefined (larger x 0) ∧ exact (larger x 0) = 0 := by
  unfold larger
  split_ifs with below
  · exact ⟨rfl, exact_single_zero⟩
  · rw [Bool.or_eq_true, not_or, decide_eq_true_eq, Bool.not_eq_true] at below
    have defined : IsDefined x := below.2
    rw [single_lt_zero_iff defined, not_lt] at below
    exact ⟨defined, le_antisymm nonpos below.1⟩

theorem floor_nonpos (defined : IsDefined x) (negative : exact x < 0) : exact (floor x) ≤ 0 := by
  have truncated : truncateSmall x = -((-x).toUInt32.toFloat32) :=
    if_pos ((single_lt_zero_iff defined).mpr negative)
  have finite := isFinite_toFloat32 (-x).toUInt32
  have nonneg := (rounds_toFloat32 (-x).toUInt32).ge Exact.Representable.zero (Nat.cast_nonneg _)
  unfold floor
  simp only [truncated]
  generalize (-x).toUInt32.toFloat32 = whole at finite nonneg
  split_ifs
  · have otherFinite : IsFinite (-whole) := by
      rw [isFinite_iff, exact_neg, abs_neg]
      exact ⟨isDefined_neg finite.isDefined, finite.abs_exact_lt⟩
    have difference := rounds_sub otherFinite (y := (1 : Float32)) rfl
    rw [exact_neg, exact_single_one] at difference
    exact difference.le Exact.Representable.zero (by linarith)
  · rw [exact_neg]
    exact neg_nonpos.mpr nonneg
  · exact negative.le

end Single

namespace PixelSurface

/-! ## One axis of a box -/

section Axis

variable {n : ℕ} {x : Float32}

/-- A box that begins at what is not behind a pixel begins with that pixel, or
before it. -/
theorem begin_le_pixel (few : n < 2 ^ 23) (defined : IsDefined x) (before : exact x < n + 1) :
    IsDefined (Single.larger (Single.floor x) 0) ∧ exact (Single.larger (Single.floor x) 0) ≤ n := by
  rcases le_or_gt 0 (exact x) with nonneg | negative
  · have room : (n : ℚ) + 1 ≤ 2 ^ 23 := by exact_mod_cast few
    have finite : IsFinite x := by
      rw [isFinite_iff, abs_of_nonneg nonneg]
      exact ⟨defined, (before.trans_le room).trans (pow_lt_pow_right₀ one_lt_two (by decide))⟩
    have whole := Single.floor_spec finite nonneg
    have floored : 0 ≤ exact (Single.floor x) := by
      rw [whole.2]
      exact_mod_cast Int.floor_nonneg.mpr nonneg
    have most : ⌊exact x⌋ ≤ (n : ℤ) := by
      rw [← Int.lt_add_one_iff, Int.floor_lt]
      push_cast
      exact before
    rw [Single.larger_zero whole.1.isDefined floored, whole.2]
    exact ⟨whole.1.isDefined, by exact_mod_cast most⟩
  · have raised := Single.larger_zero_of_nonpos (Single.floor_nonpos defined negative)
    exact ⟨raised.1, raised.2.trans_le (Nat.cast_nonneg n)⟩

/-- A box that ends at what is behind the near edge of a pixel ends behind the
pixel, if the side does. -/
theorem pixel_lt_end {side : UInt32} (few : n < 2 ^ 23) (defined : IsDefined x)
    (behind : n < exact x) (counted : n < side.toNat) :
    IsDefined (Single.smaller (Single.ceiling x) side.toFloat32) ∧
      n + 1 ≤ exact (Single.smaller (Single.ceiling x) side.toFloat32) := by
  have sideLeast : (n : ℚ) + 1 ≤ exact side.toFloat32 := by
    have value : IsValue Float32 ((n + 1 : ℕ) : ℚ) := isValue_natCast (by omega)
    rw [Nat.cast_add_one] at value
    exact (rounds_toFloat32 side).ge value (by exact_mod_cast counted)
  have nonneg : 0 ≤ exact x := (Nat.cast_nonneg n).trans behind.le
  have least : IsDefined (Single.ceiling x) ∧ n + 1 ≤ exact (Single.ceiling x) := by
    by_cases finite : IsFinite x
    · have whole := Single.ceiling_spec finite nonneg
      have next : (n : ℤ) + 1 ≤ ⌈exact x⌉ := by
        rw [Int.add_one_le_iff, Int.lt_ceil]
        exact_mod_cast behind
      rw [whole.2]
      exact ⟨whole.1.isDefined, by exact_mod_cast next⟩
    · have room : (n : ℚ) + 1 ≤ 2 ^ 23 := by exact_mod_cast few
      rw [eq_endless defined finite nonneg]
      exact ⟨rfl, room.trans (pow_le_pow_right₀ one_le_two (by decide : 23 ≤ 128))⟩
  unfold Single.smaller
  split_ifs
  · exact ⟨(rounds_toFloat32 side).defined, sideLeast⟩
  · exact least

/-- A pixel whose center is nearer to the center of a disc than the reach is in
the box around the disc. -/
theorem pixel_in_box {center reach : Float32} {side : UInt32} (few : n < 2 ^ 23)
    (finite : IsFinite center) (defined : IsDefined reach)
    (near : |(n + 1 / 2 : ℚ) - exact center| < exact reach) (counted : n < side.toNat) :
    let first := Single.larger (Single.floor (center - reach)) 0
    let last := Single.smaller (Single.ceiling (center + reach)) side.toFloat32
    first < last ∧ first.toUInt32.toNat ≤ n ∧ n < last.toUInt32.toNat := by
  have place := isValue_exact ((UInt32.ofNat n).toFloat32 + 0.5)
  rw [exact_pixelCenter few] at place
  rcases abs_lt.mp near with ⟨above, below⟩
  have size : (0 : ℚ) ≤ n := Nat.cast_nonneg n
  have edges : (IsDefined (center - reach) ∧ exact (center - reach) < n + 1) ∧
      IsDefined (center + reach) ∧ n < exact (center + reach) := by
    by_cases inside : IsFinite reach
    · have difference := rounds_sub finite inside
      have sum := rounds_add finite inside
      have most := difference.le place (by linarith)
      have least := sum.ge place (by linarith)
      exact ⟨⟨difference.defined, by linarith⟩, sum.defined, by linarith⟩
    · have room : (n : ℚ) < 2 ^ 128 := by
        have small : (n : ℚ) < 2 ^ 23 := by exact_mod_cast few
        exact small.trans (pow_lt_pow_right₀ one_lt_two (by decide))
      rw [eq_endless defined inside ((abs_nonneg _).trans near.le), sub_endless finite,
        add_endless finite, exact_neg, exact_endless, limit_single]
      exact ⟨⟨rfl, by linarith⟩, rfl, room⟩
  have begins := begin_le_pixel few edges.1.1 edges.1.2
  have ends := pixel_lt_end few edges.2.1 edges.2.2 counted
  refine ⟨(lt_iff _ _).mpr ⟨begins.1, ends.1, by linarith⟩, ?_, ?_⟩
  · rw [toNat_toUInt32]
    exact (min_le_left _ _).trans (Nat.floor_le_of_le begins.2)
  · rw [toNat_toUInt32, lt_min_iff]
    exact ⟨Nat.le_floor (by exact_mod_cast ends.2), few.trans (by decide)⟩

end Axis

/-! ## Strokes of a box -/

/-- Steps that add nothing before a part of a range and behind it. -/
theorem flatMap_range' {α : Type} {add : ℕ -> List α} {first last count : ℕ} (ordered : first ≤ last)
    (within : last ≤ count)
    (nothing : forall n, n < count -> ¬(first ≤ n ∧ n < last) -> add n = []) :
    (List.range' first (last - first)).flatMap add = (List.range' 0 count).flatMap add := by
  have empty {start length : ℕ} (outside : forall n, start ≤ n -> n < start + length ->
      n < count ∧ ¬(first ≤ n ∧ n < last)) : (List.range' start length).flatMap add = [] := by
    rw [List.flatMap_eq_nil_iff]
    intro n member
    rw [List.mem_range'_1] at member
    exact nothing n (outside n member.1 member.2).1 (outside n member.1 member.2).2
  have before : (List.range' 0 first).flatMap add = [] := empty (by omega)
  have behind : (List.range' last (count - last)).flatMap add = [] := empty (by omega)
  rw [show count = first + (last - first) + (count - last) by omega, ← List.range'_append_1,
    ← List.range'_append_1, List.flatMap_append, List.flatMap_append, Nat.zero_add, Nat.zero_add,
    Nat.add_sub_cancel' ordered, before, behind, List.nil_append, List.append_nil]

theorem rowStrokes_eq (color : Rgba) (coverage : Point Float32 -> Float32) (y x count : ℕ) :
    rowStrokes color coverage y x count = (List.range' x count).flatMap fun x =>
      if 0 < coverage (pixelCenter x y) then [⟨x, y, color, coverage (pixelCenter x y)⟩] else [] := by
  unfold rowStrokes
  induction List.range' x count with
  | nil => rfl
  | cons x columns ih =>
      rw [List.map_cons, List.filter_cons, List.flatMap_cons, ih]
      simp only [decide_eq_true_eq]
      split_ifs <;> rfl

/-- A box that holds every covered pixel of a surface has the strokes of the
whole surface. -/
theorem Box.strokes_eq {surface : PixelSurface} {box : Box} {color : Rgba}
    {coverage : Point Float32 -> Float32}
    (columns : box.left ≤ box.right ∧ box.right ≤ surface.size.width.toNat)
    (rows : box.top ≤ box.bottom ∧ box.bottom ≤ surface.size.height.toNat)
    (holds : forall x y, x < surface.size.width.toNat -> y < surface.size.height.toNat ->
      0 < coverage (pixelCenter x y) ->
      (box.left ≤ x ∧ x < box.right) ∧ box.top ≤ y ∧ y < box.bottom) :
    box.strokes color coverage = surface.wholeBox.strokes color coverage := by
  have row (y : ℕ) (inside : y < surface.size.height.toNat) :
      rowStrokes color coverage y box.left (box.right - box.left) =
        rowStrokes color coverage y 0 surface.size.width.toNat := by
    rw [rowStrokes_eq, rowStrokes_eq]
    refine flatMap_range' columns.1 columns.2 fun x inRow outside => if_neg fun covered => ?_
    exact outside (holds x y inRow inside covered).1
  have others (y : ℕ) (inside : y < surface.size.height.toNat)
      (outside : ¬(box.top ≤ y ∧ y < box.bottom)) :
      rowStrokes color coverage y 0 surface.size.width.toNat = [] := by
    rw [rowStrokes_eq, List.flatMap_eq_nil_iff]
    intro x member
    rw [List.mem_range'_1] at member
    exact if_neg fun covered => outside (holds x y (by omega) inside covered).2
  calc box.strokes color coverage
      = (List.range' box.top (box.bottom - box.top)).flatMap fun y =>
          rowStrokes color coverage y 0 surface.size.width.toNat := by
        unfold Box.strokes
        refine List.flatMap_congr fun y member => row y ?_
        rw [List.mem_range'_1] at member
        omega
    _ = surface.wholeBox.strokes color coverage := flatMap_range' rows.1 rows.2 others

end PixelSurface

end Starfield
