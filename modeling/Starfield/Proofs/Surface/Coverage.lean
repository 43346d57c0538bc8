import Starfield.Proofs.Number.Bounds
import Starfield.Proofs.Number.Root
import Starfield.Proofs.Number.Whole
import Starfield.Proofs.Surface.Clipping

namespace Starfield

/-!
# What a gradient leaves out

A gradient covers the pixels whose centers are nearer to its own center than
its radius.  That is decided by rounded numbers, but a pixel whose center keeps
the radius on one axis alone is never covered: no rounding on the way from the
coordinates to the falloff brings it back.
-/

section Falloff

variable {x y : Float32}

/-- A quotient of what is not negative is rounded, or infinite. -/
theorem quotient_cases (defined : IsDefined x) (nonneg : 0 ≤ exact x) (finite : IsFinite y)
    (positive : 0 < exact y) :
    (IsFinite (x / y) ∧ Rounds (x / y) (exact x / exact y)) ∨ x / y = endless := by
  by_cases inside : IsFinite x
  · have quotient := rounds_div inside finite positive.ne'
    by_cases kept : IsFinite (x / y)
    · exact Or.inl ⟨kept, quotient⟩
    · have above := quotient.ge Exact.Representable.zero (div_nonneg nonneg positive.le)
      exact Or.inr (eq_endless quotient.defined kept above)
  · rw [eq_endless defined inside nonneg, endless_div finite positive]
    exact Or.inr rfl

theorem not_pos_sub_endless : ¬0 < 1 - endless := by
  decide

/-- From the radius on nothing is left. -/
theorem falloff_not_pos (defined : IsDefined x) (otherDefined : IsDefined y) (positive : 0 < exact y)
    (ordered : exact y ≤ exact x) : ¬0 < 1 - x / y := by
  have nonneg : 0 ≤ exact x := positive.le.trans ordered
  by_cases finite : IsFinite y
  · rcases quotient_cases defined nonneg finite positive with ⟨inside, quotient⟩ | beyond
    · have one := isValue_exact (1 : Float32)
      have rest := rounds_sub (x := (1 : Float32)) rfl inside
      rw [exact_single_one] at one rest
      have least := quotient.ge one ((one_le_div positive).mpr ordered)
      rw [lt_iff, exact_single_zero]
      exact fun left => left.2.2.not_ge (rest.le Exact.Representable.zero (by linarith))
    · rw [beyond]
      exact not_pos_sub_endless
  · have infinite : ¬IsFinite x := by
      intro inside
      rw [eq_endless otherDefined finite positive.le, exact_endless] at ordered
      exact absurd (abs_lt.mp inside.abs_exact_lt).2 ordered.not_gt
    rw [eq_endless otherDefined finite positive.le, eq_endless defined infinite nonneg]
    decide

/-- What is left is not more than everything. -/
theorem falloff_le_one (defined : IsDefined x) (nonneg : 0 ≤ exact x) (finite : IsFinite y)
    (positive : 0 < exact y) (left : 0 < 1 - x / y) :
    IsFinite (1 - x / y) ∧ 0 < exact (1 - x / y) ∧ exact (1 - x / y) ≤ 1 := by
  have above := ((lt_iff _ _).mp left).2.2
  rw [exact_single_zero] at above
  rcases quotient_cases defined nonneg finite positive with ⟨inside, quotient⟩ | beyond
  · have one := isValue_exact (1 : Float32)
    have rest := rounds_sub (x := (1 : Float32)) rfl inside
    rw [exact_single_one] at one rest
    have some := quotient.ge Exact.Representable.zero (div_nonneg nonneg positive.le)
    have most := rest.le one (by linarith)
    refine ⟨rest.isFinite ?_, above, most⟩
    rw [abs_of_pos above]
    exact most.trans_lt (one_lt_pow₀ one_lt_two (by decide))
  · rw [beyond] at left
    exact absurd left not_pos_sub_endless

/-- Infinite numbers are infinitely far away. -/
theorem sub_of_not_isFinite (finite : IsFinite x) (defined : IsDefined y) (infinite : ¬IsFinite y) :
    IsDefined (x - y) ∧ |exact (x - y)| = limit Float32 := by
  have top : |exact endless| = limit Float32 := abs_of_pos (Exact.limit_pos _)
  rcases eq_endless_or_neg defined infinite with rfl | rfl
  · rw [sub_endless finite, exact_neg, abs_neg]
    exact ⟨rfl, top⟩
  · rw [sub_neg_endless finite]
    exact ⟨rfl, top⟩

theorem isDefined_sub (finite : IsFinite x) (defined : IsDefined y) : IsDefined (x - y) := by
  by_cases inside : IsFinite y
  · exact (rounds_sub finite inside).defined
  · exact (sub_of_not_isFinite finite defined inside).1

/-- A distance that single precision has is not lost by rounding. -/
theorem abs_sub_spec {bound : ℚ} (value : IsValue Float32 bound) (finite : IsFinite x)
    (otherFinite : IsFinite y) (apart : bound ≤ |exact x - exact y|) :
    bound ≤ |exact (x - y)| := by
  have difference := rounds_sub finite otherFinite
  rcases le_abs'.mp apart with below | above
  · exact le_abs'.mpr (Or.inl (difference.le value.neg below))
  · exact le_abs'.mpr (Or.inr (difference.ge value above))

/-- Scaling keeps what is not above zero, be it infinite, from going there. -/
theorem mul_le_zero (defined : IsDefined x) (nonpos : exact x ≤ 0) (finite : IsFinite y)
    (positive : 0 < exact y) : x * y ≤ 0 := by
  by_cases inside : IsFinite x
  · have product := rounds_mul inside finite
    rw [le_iff, exact_single_zero]
    exact ⟨product.defined, rfl, product.le Exact.Representable.zero
      (mul_nonpos_of_nonpos_of_nonneg nonpos positive.le)⟩
  · rcases eq_endless_or_neg defined inside with rfl | rfl
    · exact absurd nonpos (Exact.limit_pos _).not_ge
    · rw [neg_endless_mul finite positive]
      decide

end Falloff

/-! ## Pixels off a disc -/

/-- On one axis, a place keeps the radius from a center.  No place is near to
an infinite center. -/
def StandsOff (center radius place : Float32) : Prop :=
  IsFinite center -> exact radius ≤ |exact place - exact center|

/-- Numbers from one quarter on that differ do so by a step of the grid there. -/
theorem step_le_abs_sub {x y : ℚ} (member : IsValue Float32 x) (other : IsValue Float32 y)
    (large : 1 / 2 ≤ x) (apart : x ≠ y) : 1 / 2 ^ 25 ≤ |x - y| := by
  have quarter : ((2 : ℕ) : ℚ) ^ (-2 : ℤ) = 1 / 4 := by norm_num
  have step : (2 : ℚ) ^ Exact.spacing (Binary.format Float32) (1 / 4) = 1 / 2 ^ 25 := by
    have spaced : Exact.spacing (Binary.format Float32) (1 / 4) = -25 := by
      unfold Exact.spacing
      rw [← quarter, Int.log_zpow (by decide)]
      rfl
    rw [spaced]
    norm_num
  rcases le_or_gt y (1 / 4) with low | high
  · exact (by norm_num : (1 : ℚ) / 2 ^ 25 ≤ 1 / 4).trans ((by linarith : 1 / 4 ≤ x - y).trans (le_abs_self _))
  · rcases apart.lt_or_gt with below | above
    · have next := member.add_step_le other (by norm_num) (by linarith : 1 / 4 ≤ x) below
      rw [step] at next
      exact (by linarith : 1 / 2 ^ 25 ≤ -(x - y)).trans (neg_le_abs _)
    · have next := other.add_step_le member (by norm_num) high.le above
      rw [step] at next
      exact (by linarith : 1 / 2 ^ 25 ≤ x - y).trans (le_abs_self _)

/-- A place that stands off is not nearer once the distance is rounded, and far
enough away for a length. -/
theorem StandsOff.spec {center radius place : Float32} (off : StandsOff center radius place)
    (defined : IsDefined center) (positive : 0 < exact radius) (finite : IsFinite place)
    (large : 1 / 2 ≤ exact place) :
    exact radius ≤ |exact (place - center)| ∧ 1 / 2 ^ 60 ≤ |exact (place - center)| := by
  by_cases inside : IsFinite center
  · have radius_le := off inside
    have apart : exact place ≠ exact center := by
      intro same
      rw [same, sub_self, abs_zero] at radius_le
      exact absurd positive radius_le.not_gt
    have step := step_le_abs_sub (isValue_exact place) (isValue_exact center) large apart
    have small : IsValue Float32 (1 / 2 ^ 25) := by
      have power : (1 : ℚ) / 2 ^ 25 = 2 ^ (-25 : ℤ) := by norm_num
      rw [power]
      refine Exact.representable_two_zpow (by decide) ?_
      exact (by norm_num : (2 : ℚ) ^ (-25 : ℤ) ≤ 1).trans (one_le_pow₀ one_le_two)
    have far := abs_sub_spec small finite inside step
    exact ⟨abs_sub_spec (isValue_exact radius) finite inside radius_le, le_trans (by norm_num) far⟩
  · rw [(sub_of_not_isFinite finite defined inside).2]
    refine ⟨(le_abs_self _).trans (isValue_exact radius).bounded, ?_⟩
    exact (by norm_num : (1 : ℚ) / 2 ^ 60 ≤ 1).trans (one_le_pow₀ one_le_two)

namespace PixelSurface

theorem half_le_pixelCenter (x y : ℕ) :
    1 / 2 ≤ exact (pixelCenter x y).x ∧ 1 / 2 ≤ exact (pixelCenter x y).y := by
  have raised (n : UInt32) : 1 / 2 ≤ exact (n.toFloat32 + 0.5) := by
    have sum := rounds_add (isFinite_toFloat32 n) (y := (0.5 : Float32)) rfl
    have nonneg := (rounds_toFloat32 n).ge Exact.Representable.zero (Nat.cast_nonneg _)
    have value := isValue_exact (0.5 : Float32)
    rw [exact_single_half] at sum value
    exact sum.ge value (by linarith)
  exact ⟨raised _, raised _⟩

/-- Up to columns and rows that are too long for single precision, the center
of a pixel is not rounded. -/
theorem exact_pixelCenter {n : ℕ} (small : n < 2 ^ 23) :
    exact ((UInt32.ofNat n).toFloat32 + 0.5) = n + 1 / 2 := by
  have kept : (UInt32.ofNat n).toNat = n :=
    UInt32.toNat_ofNat_of_lt' (small.trans (by decide))
  have whole : exact (UInt32.ofNat n).toFloat32 = n := by
    rw [exact_toFloat32 (by rw [kept]; exact small.le.trans (by decide)), kept]
  have sum := rounds_add (isFinite_toFloat32 (UInt32.ofNat n)) (y := (0.5 : Float32)) rfl
  rw [whole, exact_single_half] at sum
  refine sum.exact_eq_of_isValue ⟨⟨2 * n + 1, -1, ?_, ?_, by decide⟩, ?_⟩
  · push_cast
    rw [zpow_neg_one]
    ring
  · have digits : 2 * n + 1 < 2 ^ 24 := by omega
    rw [abs_of_nonneg (by positivity)]
    exact_mod_cast digits
  · have bound : (n : ℚ) + 1 ≤ 2 ^ 23 := by exact_mod_cast small
    rw [abs_of_nonneg (by positivity)]
    exact le_trans (by linarith) (pow_le_pow_right₀ one_le_two (by decide : 23 ≤ 128))

/-- None of the numbers that a disc is drawn with is undefined. -/
structure IsDefinedDisc (center : Point Float32) (radius : Float32) : Prop where
  column : IsDefined center.x
  row : IsDefined center.y
  radius : IsDefined radius

/-- Distances from pixels are defined and not negative. -/
theorem distance_spec {center : Point Float32} (column : IsDefined center.x)
    (row : IsDefined center.y) (x y : ℕ) :
    IsDefined ((pixelCenter x y).distance center) ∧ 0 ≤ exact ((pixelCenter x y).distance center) := by
  have finite := isFinite_pixelCenter x y
  have length : (_ ∧ _) ∧ _ := Point.length_spec (p := pixelCenter x y - center)
    (isDefined_sub finite.1 column) (isDefined_sub finite.2 row)
  exact length.1

/-- A pixel that stands off on one of the axes is as far away as the radius. -/
theorem le_distance {center : Point Float32} {radius : Float32} (column : IsDefined center.x)
    (row : IsDefined center.y) (positive : 0 < exact radius) {x y : ℕ}
    (off : StandsOff center.x radius (pixelCenter x y).x ∨
      StandsOff center.y radius (pixelCenter x y).y) :
    exact radius ≤ exact ((pixelCenter x y).distance center) := by
  have finite := isFinite_pixelCenter x y
  have large := half_le_pixelCenter x y
  have length : _ ∧ (_ -> _) ∧ (_ -> _) := Point.length_spec (p := pixelCenter x y - center)
    (isDefined_sub finite.1 column) (isDefined_sub finite.2 row)
  rcases off with off | off
  · have far := off.spec column positive finite.1 large.1
    exact far.1.trans (length.2.1 far.2)
  · have far := off.spec row positive finite.2 large.2
    exact far.1.trans (length.2.2 far.2)

/-- So it is not covered. -/
theorem not_covered {center : Point Float32} {radius : Float32}
    (defined : IsDefinedDisc center radius) (positive : 0 < exact radius) {x y : ℕ}
    (off : StandsOff center.x radius (pixelCenter x y).x ∨
      StandsOff center.y radius (pixelCenter x y).y) :
    ¬0 < gradientFalloff center radius (pixelCenter x y) :=
  falloff_not_pos (distance_spec defined.column defined.row x y).1 defined.radius positive
    (le_distance defined.column defined.row positive off)

/-- Only a defined center has defined distances. -/
theorem isDefined_center {center place : Point Float32}
    (apart : IsDefined (place.distance center)) : IsDefined center.x ∧ IsDefined center.y := by
  contrapose! apart
  refine Point.not_isDefined_length (p := place - center) ?_
  by_cases column : IsDefined center.x
  · exact Or.inr (not_isDefined_sub_right place.y (apart column))
  · exact Or.inl (not_isDefined_sub_right place.x column)

/-- A disc with an undefined number covers nothing. -/
theorem not_covered_of_undefined {center : Point Float32} {radius : Float32}
    (undefined : ¬IsDefinedDisc center radius) (place : Point Float32) :
    ¬0 < gradientFalloff center radius place := by
  have lost : ¬IsDefined (place.distance center / radius) := by
    by_cases length : IsDefined (place.distance center)
    · have middle := isDefined_center length
      exact not_isDefined_div_right _ fun defined => undefined ⟨middle.1, middle.2, defined⟩
    · exact not_isDefined_div length radius
  exact fun left => not_isDefined_sub_right 1 lost ((lt_iff _ _).mp left).2.1

theorem strokes_gradient_of_not_covered {surface : PixelSurface} {center : Point Float32}
    {radius : Float32} (uncovered : forall place, ¬0 < gradientFalloff center radius place)
    (color : Rgba) : surface.strokes (.gradient center radius color) = [] := by
  change surface.discStrokes center radius radius color _ = []
  unfold discStrokes
  split_ifs
  · cases surface.boxAround? center radius with
    | none => rfl
    | some box =>
        refine List.eq_nil_iff_forall_not_mem.mpr fun stroke member => ?_
        rcases Box.mem_strokes.mp member with ⟨-, same, covered⟩
        rw [same] at covered
        exact uncovered _ covered
  · rfl

theorem strokes_gradient_of_le_zero {surface : PixelSurface} {radius : Float32}
    (nothing : radius ≤ 0) (center : Point Float32) (color : Rgba) :
    surface.strokes (.gradient center radius color) = [] := by
  change surface.discStrokes center radius radius color _ = []
  unfold discStrokes isVisibleDisc
  rw [decide_eq_true nothing]
  rfl

/-! ## Sides that a disc misses -/

/-- On one axis, no pixel of a side is covered: all of them stand off, or the
side is so long that its pixels are cut off before they are looked at. -/
def Misses (center radius : Float32) (side : UInt32) : Prop :=
  (forall n, n < side.toFloat32.toUInt32.toNat ->
    StandsOff center radius ((UInt32.ofNat n).toFloat32 + 0.5)) ∨
  (2 ^ 23 < side.toNat ∧ IsDefined (center - radius) ∧
    exact side.toFloat32 ≤ exact (center - radius))

/-- A box that begins behind a long side is empty. -/
theorem not_begin_lt_end {first last : Float32} {side : UInt32} (large : 2 ^ 23 < side.toNat)
    (defined : IsDefined first) (behind : exact side.toFloat32 ≤ exact first) :
    ¬Single.larger (Single.floor first) 0 < Single.smaller last side.toFloat32 := by
  have long : (2 : ℚ) ^ 23 ≤ exact side.toFloat32 := by
    refine (rounds_toFloat32 side).ge (isValue_two_pow (by decide)) ?_
    exact_mod_cast large.le
  have nonneg : 0 ≤ exact first := le_trans (by positivity) (long.trans behind)
  have whole : Single.floor first = first := by
    by_cases finite : IsFinite first
    · exact if_neg (by
        rw [Single.abs_lt_wholeFrom_iff finite nonneg]
        exact (long.trans behind).not_gt)
    · rw [eq_endless defined finite nonneg]
      rfl
  rw [whole, Single.larger_zero defined nonneg]
  intro ordered
  have most := Single.exact_smaller_le (x := last) (rounds_toFloat32 side).defined
  exact absurd (behind.trans_lt ((lt_iff _ _).mp ordered).2.2) most.not_gt

/-- A gradient that misses one of the sides lays no strokes. -/
theorem strokes_gradient_eq_nil {surface : PixelSurface} {center : Point Float32}
    {radius : Float32} (defined : IsDefinedDisc center radius)
    (misses : Misses center.x radius surface.size.width ∨
      Misses center.y radius surface.size.height) (color : Rgba) :
    surface.strokes (.gradient center radius color) = [] := by
  change surface.discStrokes center radius radius color _ = []
  unfold discStrokes
  split_ifs with visible
  · have positive : 0 < exact radius := by
      have above : ¬radius ≤ 0 := by
        unfold isVisibleDisc at visible
        simpa using (Bool.and_eq_true_iff.mp visible).1
      rw [le_iff, exact_single_zero, not_and, not_and] at above
      exact not_le.mp (above defined.radius rfl)
    cases clipped : surface.boxAround? center radius with
    | none => rfl
    | some box =>
        have within := boxAround?_within clipped
        refine List.eq_nil_iff_forall_not_mem.mpr fun stroke member => ?_
        rcases Box.mem_strokes.mp member with ⟨⟨columns, rows⟩, same, covered⟩
        rw [same] at covered
        unfold boxAround? at clipped
        dsimp only at clipped
        split_ifs at clipped with ordered
        rcases misses with (off | ⟨large, other, behind⟩) | (off | ⟨large, other, behind⟩)
        · exact not_covered defined positive (Or.inl (off _ (columns.2.trans_le within.1))) covered
        · exact not_begin_lt_end large other behind ordered.1
        · exact not_covered defined positive (Or.inr (off _ (rows.2.trans_le within.2))) covered
        · exact not_begin_lt_end large other behind ordered.2
  · rfl

/-- The pixels of a side that is not too long end before its last half. -/
theorem pixelCenter_le {side : UInt32} (few : side.toNat ≤ 2 ^ 23) {n : ℕ}
    (inside : n < side.toFloat32.toUInt32.toNat) :
    exact ((UInt32.ofNat n).toFloat32 + 0.5) ≤ side.toNat - 1 / 2 := by
  rw [toUInt32_toFloat32 (few.trans (by decide))] at inside
  rw [exact_pixelCenter (inside.trans_le few)]
  have next : (n : ℚ) + 1 ≤ side.toNat := by exact_mod_cast inside
  linarith

end PixelSurface

end Starfield
