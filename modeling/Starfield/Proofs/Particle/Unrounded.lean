import Starfield.Particle.Population
import Starfield.Proofs.Particle.Motion

namespace Starfield

/-!
# Motion without rounding

The motion of particles is generic in its measure and its clock.  Here it is
read over the rational numbers, where nothing is rounded.  Bringing a
coordinate into a band is then the reduction modulo the period of the band, so
a coordinate that was brought into its band on the way ends where it would have
ended without.
-/

/-- Places and displacements that are not rounded. -/
@[reducible] def exactMeasure : Measure ℚ where
  decidableLE := inferInstance
  decidableLT := inferInstance
  two := 2
  magnitude := abs
  modulo value extent := Int.fract (value / |extent|) * |extent|
  larger := max

/-- Clock readings in milliseconds that are not rounded. -/
@[reducible] def exactClock : Clock ℚ ℚ where
  decidableLE := inferInstance
  decidableLT := inferInstance
  isFinite _ := true
  referenceFrame := 1000 / 60
  toMeasure time := time

namespace Motion

/-- Bring a coordinate into `[0, extent)`. -/
def wrapExactly (value extent : ℚ) : ℚ :=
  @wrap ℚ exactMeasure value extent

/-- Bring a coordinate into `[-margin, extent + margin)`. -/
def wrapWithMarginExactly (value extent margin : ℚ) : ℚ :=
  @wrapWithMargin ℚ exactMeasure value extent margin

theorem wrapExactly_eq_toIcoMod {extent : ℚ} (positive : 0 < extent) (value : ℚ) :
    wrapExactly value extent = toIcoMod positive 0 value := by
  have short : Int.fract (value / extent) * extent < extent :=
    mul_lt_of_lt_one_left positive (Int.fract_lt_one _)
  change (if extent ≤ Int.fract (value / |extent|) * |extent| then 0
    else Int.fract (value / |extent|) * |extent|) = _
  rw [abs_of_pos positive, if_neg short.not_ge, toIcoMod_eq_fract_mul]

theorem wrapWithMarginExactly_eq_toIcoMod {extent margin : ℚ} (positive : 0 < extent + 2 * margin)
    (value : ℚ) :
    wrapWithMarginExactly value extent margin = toIcoMod positive (-margin) value := by
  change wrapExactly (value + margin) (extent + 2 * margin) - margin = _
  rw [wrapExactly_eq_toIcoMod positive, toIcoMod_add_right_eq_add, zero_sub, add_sub_cancel_right]

/-- A coordinate that was reduced on the way ends where it would have ended
without. -/
theorem toIcoMod_toIcoMod_add {period : ℚ} (positive : 0 < period) (start value drift : ℚ) :
    toIcoMod positive start (toIcoMod positive start value + drift) =
      toIcoMod positive start (value + drift) := by
  rw [toIcoMod_eq_toIcoMod]
  exact ⟨toIcoDiv positive start value, by rw [add_sub_add_right_eq_sub, self_sub_toIcoMod]⟩

theorem wrapExactly_add {extent : ℚ} (positive : 0 < extent) (value drift : ℚ) :
    wrapExactly (wrapExactly value extent + drift) extent = wrapExactly (value + drift) extent := by
  simp only [wrapExactly_eq_toIcoMod positive, toIcoMod_toIcoMod_add]

theorem wrapWithMarginExactly_add {extent margin : ℚ} (positive : 0 < extent + 2 * margin)
    (value drift : ℚ) :
    wrapWithMarginExactly (wrapWithMarginExactly value extent margin + drift) extent margin =
      wrapWithMarginExactly (value + drift) extent margin := by
  simp only [wrapWithMarginExactly_eq_toIcoMod positive, toIcoMod_toIcoMod_add]

end Motion

/-! ## Particles -/

/-- One of the two directions that particles drift in. -/
inductive Axis
  | x
  | y

/-- The coordinate of a point on an axis. -/
def Point.along {α : Type} (axis : Axis) (point : Point α) : α :=
  match axis with
  | .x => point.x
  | .y => point.y

theorem Point.along_zipWith {α β γ : Type} (f : α -> β -> γ) (p : Point α) (q : Point β)
    (axis : Axis) : (p.zipWith f q).along axis = f (p.along axis) (q.along axis) := by
  cases axis <;> rfl

/-- The distance on each axis from the center of the nebula to the far edge. -/
def Blob.exactExtent (blob : Blob ℚ) : Point ℚ :=
  @Blob.extent ℚ exactMeasure blob

theorem Blob.exactExtent_along (blob : Blob ℚ) (axis : Axis) :
    blob.exactExtent.along axis = |blob.offset.along axis| + blob.radius := by
  cases axis <;> rfl

/-- The place of a star after some steps. -/
def Star.advanceExactly (star : Star ℚ) (steps : ℚ) (extent : Point ℚ) : Star ℚ :=
  @Star.advance ℚ exactMeasure star steps extent

theorem Star.advanceExactly_position (star : Star ℚ) (steps : ℚ) (extent : Point ℚ) (axis : Axis) :
    (star.advanceExactly steps extent).position.along axis = Motion.wrapExactly
      (star.position.along axis + star.velocity.along axis * steps) (extent.along axis) := by
  cases axis <;> rfl

namespace Nebula

/-- The largest extent of some blobs on each axis. -/
def exactMarginOf (blobs : List (Blob ℚ)) : Point ℚ :=
  @marginOf ℚ exactMeasure blobs

/-- The place of a nebula after some steps. -/
def advanceExactly (nebula : Nebula ℚ) (steps : ℚ) (extent : Point ℚ) : Nebula ℚ :=
  @advance ℚ exactMeasure nebula steps extent

theorem advanceExactly_center (nebula : Nebula ℚ) (steps : ℚ) (extent : Point ℚ) (axis : Axis) :
    (nebula.advanceExactly steps extent).center.along axis = Motion.wrapWithMarginExactly
      (nebula.center.along axis + nebula.velocity.along axis * steps) (extent.along axis)
      (nebula.margin.along axis) := by
  cases axis <;> rfl

/-- A margin is not less than where it starts from, nor than the extent of any
blob. -/
theorem foldl_margin_spec (axis : Axis) (blobs : List (Blob ℚ)) (start : Point ℚ) :
    let margin := blobs.foldl (fun margin blob => margin.zipWith max blob.exactExtent) start
    start.along axis ≤ margin.along axis ∧
      forall blob, blob ∈ blobs -> |blob.offset.along axis| + blob.radius ≤ margin.along axis := by
  induction blobs generalizing start with
  | nil => exact ⟨le_rfl, nofun⟩
  | cons blob blobs ih =>
      rcases ih (start.zipWith max blob.exactExtent) with ⟨least, others⟩
      rw [Point.along_zipWith, max_le_iff, Blob.exactExtent_along] at least
      exact ⟨least.1, List.forall_mem_cons.mpr ⟨least.2, others⟩⟩

theorem exactMarginOf_nonneg (blobs : List (Blob ℚ)) (axis : Axis) :
    0 ≤ (exactMarginOf blobs).along axis := by
  have least := (foldl_margin_spec axis blobs ⟨0, 0⟩).1
  cases axis <;> exact least

theorem extent_le_exactMarginOf {blobs : List (Blob ℚ)} {blob : Blob ℚ} (member : blob ∈ blobs)
    (axis : Axis) :
    |blob.offset.along axis| + blob.radius ≤ (exactMarginOf blobs).along axis :=
  (foldl_margin_spec axis blobs ⟨0, 0⟩).2 blob member

end Nebula

end Starfield
