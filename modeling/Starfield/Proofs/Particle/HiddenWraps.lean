import Starfield.Proofs.Particle.Unrounded

namespace Starfield

/-!
# Wraps out of sight

The margin of a nebula is the largest extent of its blobs on each axis.  So
when the center is led out of its band, every blob has left the view on that
side, whatever the sign of its offset; and a blob that is led over the band by
some distance has come back into the view by no more than that distance,
however many periods it is.
-/

/-- The part of an axis that a blob covers when the center of its nebula is at a
place. -/
def Blob.span (blob : Blob ℚ) (axis : Axis) (center : ℚ) : Set ℚ :=
  Set.Icc (center + blob.offset.along axis - blob.radius)
    (center + blob.offset.along axis + blob.radius)

/-- A drift on one axis that leads the center of a nebula with some blobs to
`next` and is then wrapped to `moved` shows nothing of the wrap. -/
structure HidesWrap (blobs : List (Blob ℚ)) (axis : Axis) (side margin next moved : ℚ) : Prop where
  /-- There is a wrap exactly if the drift leads out of the band. -/
  wraps_iff : moved ≠ next ↔ next ∉ Set.Ico (-margin) (side + margin)
  /-- Then no blob was in sight. -/
  unseen : next ∉ Set.Ico (-margin) (side + margin) ->
    forall blob, blob ∈ blobs -> Disjoint (blob.span axis next) (Set.Ioo 0 side)
  /-- Behind the far end, the blobs come back at the near edge of the view. -/
  nearEdge : side + margin ≤ next ->
    forall blob, blob ∈ blobs -> forall place, place ∈ blob.span axis moved ->
      place ≤ next - (side + margin)
  /-- In front of the near end, they come back at the far edge. -/
  farEdge : next < -margin ->
    forall blob, blob ∈ blobs -> forall place, place ∈ blob.span axis moved ->
      side - place ≤ -margin - next

/-! ## Whole periods -/

section Periods

variable {period start value : ℚ} (positive : 0 < period)

include positive

/-- What lies behind a band is brought back by a period at least. -/
theorem toIcoMod_le_sub (behind : start + period ≤ value) :
    toIcoMod positive start value ≤ value - period := by
  have reduced := self_sub_toIcoDiv_zsmul positive start value
  have inside := toIcoMod_lt_right positive start value
  have some : 1 ≤ toIcoDiv positive start value := by
    by_contra few
    have back := zsmul_le_zsmul_left positive.le (show toIcoDiv positive start value ≤ 0 by omega)
    rw [zero_zsmul] at back
    linarith
  have whole := zsmul_le_zsmul_left positive.le some
  rw [one_zsmul] at whole
  linarith

/-- What lies in front of a band is moved on by a period at least. -/
theorem add_le_toIcoMod (before : value < start) :
    value + period ≤ toIcoMod positive start value := by
  have reduced := self_sub_toIcoDiv_zsmul positive start value
  have inside := left_le_toIcoMod positive start value
  have some : toIcoDiv positive start value ≤ -1 := by
    by_contra few
    have on := zsmul_nonneg positive.le (show 0 ≤ toIcoDiv positive start value by omega)
    linarith
  have whole := zsmul_le_zsmul_left positive.le some
  rw [neg_one_zsmul] at whole
  linarith

end Periods

/-! ## Nebulae -/

/-- A margin that holds every blob hides the wraps of a band. -/
theorem hidesWrap_toIcoMod {blobs : List (Blob ℚ)} {axis : Axis} {side margin : ℚ}
    (holds : forall blob, blob ∈ blobs -> |blob.offset.along axis| + blob.radius ≤ margin)
    (positive : 0 < side + 2 * margin) (next : ℚ) :
    HidesWrap blobs axis side margin next (toIcoMod positive (-margin) next) := by
  have farEnd : -margin + (side + 2 * margin) = side + margin := by ring
  constructor
  case wraps_iff => rw [ne_eq, toIcoMod_eq_self, farEnd]
  case unseen =>
    intro outside blob member
    have fits := holds blob member
    have right := le_abs_self (blob.offset.along axis)
    have left := neg_abs_le (blob.offset.along axis)
    rw [Set.mem_Ico, not_and_or, not_le, not_lt] at outside
    rw [Set.disjoint_left]
    rintro place ⟨low, high⟩ ⟨begins, ends⟩
    rcases outside with before | behind
    · linarith
    · linarith
  case nearEdge =>
    rintro behind blob member place ⟨-, high⟩
    have fits := holds blob member
    have right := le_abs_self (blob.offset.along axis)
    have back := toIcoMod_le_sub positive (farEnd.trans_le behind)
    linarith
  case farEdge =>
    rintro before blob member place ⟨low, -⟩
    have fits := holds blob member
    have left := neg_abs_le (blob.offset.along axis)
    have on := add_le_toIcoMod positive before
    linarith

namespace Nebula

/-- A nebula with the margin of its blobs hides every wrap on both axes,
however far it drifts and in whatever direction. -/
theorem advance_hides_wraps {nebula : Nebula ℚ}
    (fitted : nebula.margin = exactMarginOf nebula.blobs) {extent : Point ℚ}
    (wide : 0 < extent.x) (high : 0 < extent.y) (steps : ℚ) (axis : Axis) :
    HidesWrap nebula.blobs axis (extent.along axis) (nebula.margin.along axis)
      (nebula.center.along axis + nebula.velocity.along axis * steps)
      ((nebula.advanceExactly steps extent).center.along axis) := by
  have long : 0 < extent.along axis := by
    cases axis
    · exact wide
    · exact high
  have nonneg := exactMarginOf_nonneg nebula.blobs axis
  rw [← fitted] at nonneg
  have positive : 0 < extent.along axis + 2 * nebula.margin.along axis := by linarith
  rw [advanceExactly_center, Motion.wrapWithMarginExactly_eq_toIcoMod positive]
  refine hidesWrap_toIcoMod (fun blob member => ?_) positive _
  rw [fitted]
  exact extent_le_exactMarginOf member axis

/-- Blobs on both sides of the center.  The nebula is led more than two periods
out of its band on the left, and less than one below. -/
theorem advance_hides_wraps_twoBlobs :
    let blobs : List (Blob ℚ) := [⟨⟨30, 0⟩, 50, 1, .black⟩, ⟨⟨-20, 15⟩, 40, 1, .black⟩]
    let nebula : Nebula ℚ := ⟨⟨100, 340⟩, ⟨-700, 15⟩, 1, blobs, ⟨80, 55⟩⟩
    exactMarginOf blobs = ⟨80, 55⟩ ∧
      (nebula.advanceExactly 2 ⟨400, 300⟩).center = ⟨380, -40⟩ ∧
      HidesWrap blobs .x 400 80 (-1300) 380 ∧ HidesWrap blobs .y 300 55 370 (-40) := by
  intro blobs nebula
  have fitted : exactMarginOf blobs = ⟨80, 55⟩ := by decide +kernel
  have moved : (nebula.advanceExactly 2 ⟨400, 300⟩).center = ⟨380, -40⟩ := by decide +kernel
  have hides := @advance_hides_wraps nebula fitted.symm ⟨400, 300⟩ (by norm_num) (by norm_num) 2
  rw [moved] at hides
  have left : (100 : ℚ) + -700 * 2 = -1300 := by norm_num
  have below : (340 : ℚ) + 15 * 2 = 370 := by norm_num
  exact ⟨fitted, moved, left ▸ hides .x, below ▸ hides .y⟩

end Nebula

end Starfield
