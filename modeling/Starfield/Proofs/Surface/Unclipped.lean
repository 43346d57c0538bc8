import Starfield.Proofs.Number.Unit
import Starfield.Proofs.Surface.Boxes

namespace Starfield

/-!
# Discs without their boxes

The box around a disc only saves work.  A disc with a radius is painted as if
every pixel of the surface were looked at, with whatever numbers it is drawn,
because the box holds all the pixels that the disc covers.  Discs without a
radius are left out before their coverage is looked at, and that does make a
difference: the soft rim of a circle would still cover a pixel.
-/

section Coverage

variable {x y : Float32}

theorem not_pos_of_not_isDefined (undefined : ¬IsDefined x) : ¬0 < x :=
  fun above => undefined ((lt_iff 0 x).mp above).2.1

theorem isDefined_of_clampUnit_pos (above : 0 < Single.clampUnit x) : IsDefined x := by
  by_contra undefined
  rw [Single.clampUnit, clamp_of_not_isDefined undefined] at above
  exact not_pos_of_not_isDefined undefined above

/-- What does not exceed the distance leaves nothing of it. -/
theorem not_pos_clampUnit_sub (defined : IsDefined x) (nonneg : 0 ≤ exact x)
    (ordered : exact x ≤ exact y) : ¬0 < Single.clampUnit (x - y) := by
  intro above
  have difference := isDefined_of_clampUnit_pos above
  have otherDefined : IsDefined y := by
    by_contra undefined
    exact not_isDefined_sub_right x undefined difference
  have below : exact (x - y) ≤ 0 := by
    by_cases otherFinite : IsFinite y
    · have finite : IsFinite x := by
        rw [isFinite_iff, abs_of_nonneg nonneg]
        exact ⟨defined, ordered.trans_lt (abs_lt.mp otherFinite.abs_exact_lt).2⟩
      exact (rounds_sub finite otherFinite).le Exact.Representable.zero (by linarith)
    · rw [eq_endless otherDefined otherFinite (nonneg.trans ordered)] at difference ⊢
      by_cases finite : IsFinite x
      · rw [sub_endless finite, exact_neg]
        exact neg_nonpos.mpr (Exact.limit_pos _).le
      · rw [eq_endless defined finite nonneg] at difference
        cases difference
  rw [lt_iff, exact_single_zero, (clampUnit_spec difference).2, min_eq_right (by linarith),
    max_eq_left below] at above
  exact lt_irrefl 0 above.2.2

/-- A finite part of an infinite radius is nothing. -/
theorem div_endless_spec (finite : IsFinite x) :
    IsFinite (x / endless) ∧ exact (x / endless) = 0 := by
  have zero (sign : Float.Model.UnpackedFloat.Sign) :
      IsFinite (Binary.pack (.zero sign) : Float32) ∧ exact (Binary.pack (.zero sign) : Float32) = 0 := by
    cases sign <;> exact ⟨rfl, rfl⟩
  rw [Arithmetic.div_eq]
  rcases unpack_of_isFinite finite with ⟨sign, unpacked⟩ | ⟨sign, _, _, _, unpacked⟩ <;>
    rw [unpacked] <;> cases sign <;> exact zero _

/-- What is left of a gradient is finite. -/
theorem isFinite_falloff (defined : IsDefined x) (nonneg : 0 ≤ exact x) (positive : 0 < exact y)
    (left : 0 < 1 - x / y) : IsFinite (1 - x / y) := by
  by_cases finite : IsFinite y
  · exact (falloff_le_one defined nonneg finite positive left).1
  · have otherDefined : IsDefined y := by
      by_contra undefined
      exact not_pos_of_not_isDefined (not_isDefined_sub_right 1 (not_isDefined_div_right x undefined)) left
    rw [eq_endless otherDefined finite positive.le] at left ⊢
    by_cases inside : IsFinite x
    · have nothing := div_endless_spec inside
      have rest := rounds_sub (x := (1 : Float32)) rfl nothing.1
      rw [nothing.2, sub_zero] at rest
      exact (rest.spec_of_isValue (isValue_exact 1) (IsFinite.abs_exact_lt rfl)).1
    · rw [eq_endless defined inside nonneg] at left
      exact absurd left (by decide)

end Coverage

namespace PixelSurface

/-- Whatever is covered is nearer to a center than a reach on both axes, and
is covered by a finite amount. -/
structure KeepsNear (coverage : Point Float32 -> Float32) (center : Point Float32)
    (reach : Float32) : Prop where
  defined : forall x y, 0 < coverage (pixelCenter x y) -> IsDefined reach
  column : forall x y, 0 < coverage (pixelCenter x y) ->
    ¬StandsOff center.x reach (pixelCenter x y).x
  row : forall x y, 0 < coverage (pixelCenter x y) ->
    ¬StandsOff center.y reach (pixelCenter x y).y
  finite : forall x y, 0 < coverage (pixelCenter x y) -> IsFinite (coverage (pixelCenter x y))

variable {surface : PixelSurface} {center : Point Float32} {radius reach : Float32} {color : Rgba}
  {coverage : Point Float32 -> Float32}

/-- A pixel that does not stand off lies in the box, on one axis. -/
theorem in_box_of_not_standsOff {side : UInt32} {middle : Float32} {n : ℕ}
    (few : side.toNat ≤ 2 ^ 23) (defined : IsDefined reach) (counted : n < side.toNat)
    (near : ¬StandsOff middle reach ((UInt32.ofNat n).toFloat32 + 0.5)) :
    let first := Single.larger (Single.floor (middle - reach)) 0
    let last := Single.smaller (Single.ceiling (middle + reach)) side.toFloat32
    first < last ∧ first.toUInt32.toNat ≤ n ∧ n < last.toUInt32.toNat := by
  have small : n < 2 ^ 23 := counted.trans_le few
  unfold StandsOff at near
  rw [exact_pixelCenter small, Classical.not_imp, not_le] at near
  exact pixel_in_box small near.1 defined near.2 counted

/-- The pixels that are covered lie in the box, so no stroke is left out. -/
theorem KeepsNear.strokes_eq (near : KeepsNear coverage center reach)
    (width : surface.size.width.toNat ≤ 2 ^ 23) (height : surface.size.height.toNat ≤ 2 ^ 23) :
    (match surface.boxAround? center reach with
      | some box => box.strokes color coverage
      | none => []) = surface.wholeBox.strokes color coverage := by
  have column (x y : ℕ) (inside : x < surface.size.width.toNat)
      (covered : 0 < coverage (pixelCenter x y)) :=
    in_box_of_not_standsOff width (near.defined x y covered) inside (near.column x y covered)
  have row (x y : ℕ) (inside : y < surface.size.height.toNat)
      (covered : 0 < coverage (pixelCenter x y)) :=
    in_box_of_not_standsOff height (near.defined x y covered) inside (near.row x y covered)
  cases clipped : surface.boxAround? center reach with
  | some box =>
      have within := boxAround?_within clipped
      rw [toUInt32_toFloat32 (width.trans (by decide)), toUInt32_toFloat32 (height.trans (by decide))]
        at within
      unfold boxAround? at clipped
      dsimp only at clipped
      split_ifs at clipped with ordered
      cases clipped
      exact Box.strokes_eq ⟨toUInt32_mono ((lt_iff _ _).mp ordered.1).2.2.le, within.1⟩
        ⟨toUInt32_mono ((lt_iff _ _).mp ordered.2).2.2.le, within.2⟩
        fun x y inRow inColumn covered => ⟨(column x y inRow covered).2, (row x y inColumn covered).2⟩
  | none =>
      refine (List.eq_nil_iff_forall_not_mem.mpr fun stroke member => ?_).symm
      rcases Box.mem_strokes.mp member with ⟨⟨columns, rows⟩, same, covered⟩
      rw [same] at covered
      unfold boxAround? at clipped
      dsimp only at clipped
      rw [if_pos ⟨(column _ _ columns.2 covered).1, (row _ _ rows.2 covered).1⟩] at clipped
      cases clipped

/-- Strokes that leave nothing of their color change nothing. -/
theorem layAll_of_idle {strokes : List Stroke}
    (idle : forall stroke, stroke ∈ strokes -> ¬stroke.Marks) :
    surface.layAll strokes = .ok surface := by
  induction strokes with
  | nil => rfl
  | cons stroke strokes ih =>
      rw [layAll, List.foldlM_cons]
      rcases stroke.lay_cases surface with ⟨-, kept⟩ | ⟨marks, -⟩ | ⟨marks, -⟩
      · rw [kept, Outcome.ok_bind]
        exact ih fun other inside => idle other (List.mem_cons_of_mem stroke inside)
      · exact absurd marks (idle stroke List.mem_cons_self)
      · exact absurd marks (idle stroke List.mem_cons_self)

/-- Without an opacity there is nothing to leave. -/
theorem KeepsNear.layAll_of_faint (near : KeepsNear coverage center reach)
    (faint : color.alpha ≤ 0) (box : Box) :
    surface.layAll (box.strokes color coverage) = .ok surface := by
  refine layAll_of_idle fun stroke member => ?_
  rcases Box.mem_strokes.mp member with ⟨-, same, covered⟩
  rw [same] at covered ⊢
  have amount := near.finite _ _ covered
  rw [lt_iff, exact_single_zero] at covered
  rw [le_iff, exact_single_zero] at faint
  have product := mul_le_zero faint.1 faint.2.2 amount covered.2.2
  rw [le_iff, exact_single_zero] at product
  have strength := clampUnit_spec product.1
  rw [min_eq_right (product.2.2.trans zero_le_one), max_eq_left product.2.2] at strength
  unfold Stroke.Marks
  rw [not_not, le_iff, exact_single_zero]
  exact ⟨strength.1.finite.isDefined, rfl, strength.2.le⟩

/-- A disc with a radius is painted as if there were no box. -/
theorem KeepsNear.paint_eq (near : KeepsNear coverage center reach) (some : ¬radius ≤ 0)
    (width : surface.size.width.toNat ≤ 2 ^ 23) (height : surface.size.height.toNat ≤ 2 ^ 23) :
    surface.layAll (surface.discStrokes center radius reach color coverage) =
      surface.paint surface.wholeBox color coverage := by
  rw [PixelSurface.paint_eq]
  unfold discStrokes isVisibleDisc
  rw [decide_eq_false some]
  by_cases faint : color.alpha ≤ 0
  · rw [decide_eq_true faint, near.layAll_of_faint faint]
    rfl
  · rw [decide_eq_false faint, ← near.strokes_eq width height]
    rfl

/-! ## Discs that keep near -/

theorem exact_radius_pos (defined : IsDefined radius) (some : ¬radius ≤ 0) : 0 < exact radius := by
  rw [le_iff, exact_single_zero] at some
  exact not_le.mp fun below => some ⟨defined, rfl, below⟩

theorem keepsNear_gradient (some : ¬radius ≤ 0) :
    KeepsNear (gradientFalloff center radius) center radius := by
  have defined (x y : ℕ) (covered : 0 < gradientFalloff center radius (pixelCenter x y)) :
      IsDefinedDisc center radius := by
    by_contra undefined
    exact not_covered_of_undefined undefined _ covered
  constructor
  · exact fun x y covered => (defined x y covered).radius
  · intro x y covered off
    have disc := defined x y covered
    exact not_covered disc (exact_radius_pos disc.radius some) (Or.inl off) covered
  · intro x y covered off
    have disc := defined x y covered
    exact not_covered disc (exact_radius_pos disc.radius some) (Or.inr off) covered
  · intro x y covered
    have disc := defined x y covered
    have length := distance_spec disc.column disc.row x y
    exact isFinite_falloff length.1 length.2 (exact_radius_pos disc.radius some) covered

/-- What a circle covers has a place, and the rim is within the reach. -/
theorem circle_covers (some : ¬radius ≤ 0) {x y : ℕ}
    (covered : 0 < circleCoverage center radius (pixelCenter x y)) :
    IsDefinedDisc center radius ∧ ¬(StandsOff center.x (radius + 1) (pixelCenter x y).x ∨
      StandsOff center.y (radius + 1) (pixelCenter x y).y) := by
  have difference : IsDefined (radius + 0.5 - (pixelCenter x y).distance center) :=
    isDefined_of_clampUnit_pos covered
  have apart : IsDefined ((pixelCenter x y).distance center) := by
    by_contra undefined
    exact not_isDefined_sub_right _ undefined difference
  have defined : IsDefined radius := by
    by_contra undefined
    exact not_isDefined_sub (not_isDefined_add undefined 0.5) _ difference
  have middle := isDefined_center apart
  have positive := exact_radius_pos defined some
  have half := add_spec defined (y := (0.5 : Float32)) rfl positive.le
    (exact_single_half ▸ by norm_num)
  have whole := add_spec defined (y := (1 : Float32)) rfl positive.le
    (exact_single_one ▸ zero_le_one)
  have wider : exact (radius + 0.5) ≤ exact (radius + 1) := by
    by_cases finite : IsFinite radius
    · have less := rounds_add finite (y := (0.5 : Float32)) rfl
      have more := rounds_add finite (y := (1 : Float32)) rfl
      rw [exact_single_half] at less
      rw [exact_single_one] at more
      exact less.exact_le_exact more (by linarith)
    · rw [eq_endless defined finite positive.le]
      exact le_rfl
  refine ⟨⟨middle.1, middle.2, defined⟩, fun off => ?_⟩
  have far := le_distance middle.1 middle.2 (positive.trans_le whole.2.1) off
  exact not_pos_clampUnit_sub half.1 (positive.le.trans half.2.1) (wider.trans far) covered

theorem keepsNear_circle (some : ¬radius ≤ 0) :
    KeepsNear (circleCoverage center radius) center (radius + 1) := by
  constructor
  · intro x y covered
    have defined := (circle_covers some covered).1.radius
    exact (add_spec defined (y := (1 : Float32)) rfl (exact_radius_pos defined some).le
      (exact_single_one ▸ zero_le_one)).1
  · exact fun x y covered off => (circle_covers some covered).2 (Or.inl off)
  · exact fun x y covered off => (circle_covers some covered).2 (Or.inr off)
  · exact fun x y covered => (clampUnit_spec (isDefined_of_clampUnit_pos covered)).1.finite

/-- On a surface whose pixels have exact centers, a disc with a radius paints
every pixel by its coverage, wherever its center is and whatever its color.
Without a radius it paints nothing. -/
theorem draw_eq_unclipped (surface : PixelSurface) (width : surface.size.width.toNat ≤ 2 ^ 22)
    (height : surface.size.height.toNat ≤ 2 ^ 22) (center : Point Float32) (radius : Float32)
    (color : Rgba) :
    (¬radius ≤ 0 ->
      Surface.draw (.circle center radius color) surface =
        surface.paint surface.wholeBox color (circleCoverage center radius) ∧
      Surface.draw (.gradient center radius color) surface =
        surface.paint surface.wholeBox color (gradientFalloff center radius)) ∧
    (radius ≤ 0 ->
      Surface.draw (.circle center radius color) surface = .ok surface ∧
      Surface.draw (.gradient center radius color) surface = .ok surface) := by
  have columns : surface.size.width.toNat ≤ 2 ^ 23 := width.trans (by decide)
  have rows : surface.size.height.toNat ≤ 2 ^ 23 := height.trans (by decide)
  rw [draw_eq, draw_eq]
  constructor
  · exact fun some => ⟨(keepsNear_circle some).paint_eq some columns rows,
      (keepsNear_gradient some).paint_eq some columns rows⟩
  · intro nothing
    have strokes (reach : Float32) (coverage : Point Float32 -> Float32) :
        surface.discStrokes center radius reach color coverage = [] := by
      unfold discStrokes isVisibleDisc
      rw [decide_eq_true nothing]
      rfl
    exact ⟨congrArg surface.layAll (strokes _ _), congrArg surface.layAll (strokes _ _)⟩

/-- Three columns and two rows without a color. -/
def clearSlate : PixelSurface where
  size := ⟨3, 2⟩
  pixels := Array.replicate 6 .transparent

theorem draw_eq_unclipped_clearSlate :
    Surface.draw (.circle ⟨-1e30, 0 / 0⟩ 1 ⟨1, 1, 1, 1⟩) clearSlate =
      clearSlate.paint clearSlate.wholeBox ⟨1, 1, 1, 1⟩ (circleCoverage ⟨-1e30, 0 / 0⟩ 1) ∧
    Surface.draw (.gradient ⟨3, 1⟩ 2 ⟨1, 1, 1, 0.5⟩) clearSlate =
      clearSlate.paint clearSlate.wholeBox ⟨1, 1, 1, 0.5⟩ (gradientFalloff ⟨3, 1⟩ 2) ∧
    Surface.draw (.circle ⟨1, 1⟩ 0 ⟨1, 1, 1, 1⟩) clearSlate = .ok clearSlate := by
  have sides : clearSlate.size.width.toNat ≤ 2 ^ 22 ∧ clearSlate.size.height.toNat ≤ 2 ^ 22 := by
    decide
  have spec (center : Point Float32) (radius : Float32) (color : Rgba) :=
    draw_eq_unclipped clearSlate sides.1 sides.2 center radius color
  exact ⟨((spec ⟨-1e30, 0 / 0⟩ 1 _).1 (by decide)).1, ((spec ⟨3, 1⟩ 2 _).1 (by decide)).2,
    ((spec ⟨1, 1⟩ 0 _).2 (by decide)).1⟩

/-- The rim of a circle without a radius would cover half of a pixel. -/
theorem exists_rim_left_out : Exists fun surface : PixelSurface =>
    surface.IsSound ∧ surface.size = ⟨1, 1⟩ ∧
      Surface.draw (.circle ⟨0.5, 0.5⟩ 0 ⟨1, 1, 1, 1⟩) surface ≠
        surface.paint surface.wholeBox ⟨1, 1, 1, 1⟩ (circleCoverage ⟨0.5, 0.5⟩ 0) := by
  refine ⟨⟨⟨1, 1⟩, #[.transparent]⟩, ⟨by decide, by decide, by decide, rfl⟩, rfl, fun same => ?_⟩
  have bytes := congrArg (fun painted => painted.toOption.map fun surface =>
    surface.pixels.toList.flatMap Rgba.bytes) same
  revert bytes
  decide +kernel

end PixelSurface

end Starfield
