import Starfield.Proofs.Number.Unit
import Starfield.Proofs.Outcome
import Starfield.Settings.Validation

namespace Starfield

/-!
# Accepted settings

Validation runs checks one after the other.  Here is what they establish, as
statements about exact numbers: settings pass exactly if every part of them is
finite and inside its domain.  Nothing else is used of validation later on.
-/

/-! ## Single checks -/

/-- A finite number that is not negative. -/
structure IsNonNegative {α : Type} [Binary α] (x : α) : Prop where
  finite : IsFinite x
  nonneg : 0 ≤ exact x

namespace Range

/-- The ends of a range are numbers in order. -/
structure IsOrdered (range : Range) : Prop where
  min_finite : IsFinite range.min
  max_finite : IsFinite range.max
  le : exact range.min ≤ exact range.max

structure IsNonNegative (range : Range) : Prop extends IsOrdered range where
  nonneg : 0 ≤ exact range.min

structure IsUnit (range : Range) : Prop extends IsNonNegative range where
  le_one : exact range.max ≤ 1

theorem isOrdered_iff (range : Range) : range.isOrdered = true ↔ range.IsOrdered := by
  unfold isOrdered
  rw [Bool.and_eq_true, Bool.and_eq_true, Bool.not_eq_true', decide_eq_false_iff_not,
    isFinite_single, isFinite_single]
  constructor
  · rintro ⟨⟨first, second⟩, inOrder⟩
    rw [not_lt_iff_le second.isDefined first.isDefined, le_iff] at inOrder
    exact ⟨first, second, inOrder.2.2⟩
  · rintro ⟨first, second, inOrder⟩
    rw [not_lt_iff_le second.isDefined first.isDefined, le_iff]
    exact ⟨⟨first, second⟩, first.isDefined, second.isDefined, inOrder⟩

theorem check_eq_ok (setting : Setting) (range : Range) :
    range.check setting = .ok () ↔ range.IsOrdered := by
  rw [← isOrdered_iff]
  unfold check
  split_ifs with inOrder
  · exact iff_of_true rfl inOrder
  · exact iff_of_false nofun inOrder

theorem checkNonNegative_eq_ok (setting : Setting) (range : Range) :
    range.checkNonNegative setting = .ok () ↔ range.IsNonNegative := by
  unfold checkNonNegative
  rw [Outcome.then_eq_ok, check_eq_ok]
  constructor
  · rintro ⟨inOrder, passed⟩
    split_ifs at passed with negative
    rw [single_lt_zero_iff inOrder.min_finite.isDefined, not_lt] at negative
    exact ⟨inOrder, negative⟩
  · rintro ⟨inOrder, nonneg⟩
    refine ⟨inOrder, if_neg ?_⟩
    rwa [single_lt_zero_iff inOrder.min_finite.isDefined, not_lt]

theorem checkUnit_eq_ok (setting : Setting) (range : Range) :
    range.checkUnit setting = .ok () ↔ range.IsUnit := by
  have one_lt_iff (inOrder : range.IsOrdered) : 1 < range.max ↔ 1 < exact range.max := by
    rw [lt_iff, exact_single_one]
    exact ⟨fun above => above.2.2, fun above => ⟨rfl, inOrder.max_finite.isDefined, above⟩⟩
  unfold checkUnit
  rw [Outcome.then_eq_ok, checkNonNegative_eq_ok]
  constructor
  · rintro ⟨nonNegative, passed⟩
    split_ifs at passed with above
    rw [one_lt_iff nonNegative.toIsOrdered, not_lt] at above
    exact ⟨nonNegative, above⟩
  · rintro ⟨nonNegative, le_one⟩
    refine ⟨nonNegative, if_neg ?_⟩
    rwa [one_lt_iff nonNegative.toIsOrdered, not_lt]

end Range

theorem CountRange.check_eq_ok (setting : Setting) (range : CountRange) :
    range.check setting = .ok () ↔ range.min ≤ range.max := by
  unfold check
  split_ifs with crossed
  · exact iff_of_false nofun (UInt32.not_le.mpr crossed)
  · exact iff_of_true rfl (UInt32.not_lt.mp crossed)

theorem isNonNegative_iff (value : Float) :
    (value.isFinite && !(value < 0)) = true ↔ IsNonNegative value := by
  rw [Bool.and_eq_true, Bool.not_eq_true', decide_eq_false_iff_not, isFinite_double]
  constructor
  · rintro ⟨finite, negative⟩
    rw [double_lt_zero_iff finite.isDefined, not_lt] at negative
    exact ⟨finite, negative⟩
  · rintro ⟨finite, nonneg⟩
    refine ⟨finite, ?_⟩
    rwa [double_lt_zero_iff finite.isDefined, not_lt]

theorem checkNonNegative_eq_ok (setting : Setting) (value : Float) :
    checkNonNegative setting value = .ok () ↔ IsNonNegative value := by
  rw [← isNonNegative_iff]
  unfold checkNonNegative
  split_ifs with passed
  · exact iff_of_true rfl passed
  · exact iff_of_false nofun passed

theorem isNonNegative_widen_iff (value : Float32) :
    IsNonNegative (widen value) ↔ IsNonNegative value := by
  constructor
  · rintro ⟨finite, nonneg⟩
    rw [isFinite_widen_iff] at finite
    exact ⟨finite, exact_widen finite ▸ nonneg⟩
  · rintro ⟨finite, nonneg⟩
    exact ⟨isFinite_widen finite, (exact_widen finite).symm ▸ nonneg⟩

theorem checkUnit_eq_ok (setting : Setting) (value : Float32) :
    checkUnit setting value = .ok () ↔ IsUnit value := by
  rw [← isUnit_iff]
  unfold checkUnit
  split_ifs with passed
  · exact iff_of_true rfl passed
  · exact iff_of_false nofun passed

/-- A color that can be shown. -/
structure Rgb.IsNormal (color : Rgb) : Prop where
  red : IsUnit color.red
  green : IsUnit color.green
  blue : IsUnit color.blue

theorem Rgb.isNormalized_iff (color : Rgb) : color.isNormalized = true ↔ color.IsNormal := by
  unfold isNormalized isChannel
  rw [Bool.and_eq_true, Bool.and_eq_true, isUnit_iff, isUnit_iff, isUnit_iff]
  exact ⟨fun ⟨⟨red, green⟩, blue⟩ => ⟨red, green, blue⟩, fun ⟨red, green, blue⟩ => ⟨⟨red, green⟩, blue⟩⟩

/-! ## Parts of the settings -/

namespace Palette

structure Accepted (palette : Palette) : Prop where
  nonempty : palette.stars ≠ []
  stars : forall color, color ∈ palette.stars -> color.IsNormal
  nebulaHue : palette.nebulaHue.IsOrdered
  nebulaSaturation : IsUnit palette.nebulaSaturation
  nebulaLightness : IsUnit palette.nebulaLightness

theorem checkStars_eq_ok (palette : Palette) : palette.checkStars = .ok () ↔
    palette.stars ≠ [] ∧ forall color, color ∈ palette.stars -> color.IsNormal := by
  unfold checkStars
  split_ifs with empty
  · exact iff_of_false nofun fun accepted => accepted.1 (List.isEmpty_iff.mp empty)
  · have nonempty : palette.stars ≠ [] := fun none => empty (List.isEmpty_iff.mpr none)
    split
    · next color found =>
        refine iff_of_false nofun fun accepted => ?_
        have outside := List.find?_some found
        have normal := accepted.2 color (List.mem_of_find?_eq_some found)
        rw [← Rgb.isNormalized_iff] at normal
        rw [normal] at outside
        cases outside
    · next missing =>
        refine iff_of_true rfl ⟨nonempty, fun color inside => ?_⟩
        have normal := List.find?_eq_none.mp missing color inside
        rw [← Rgb.isNormalized_iff]
        simpa using normal

theorem validate_eq_ok (palette : Palette) : palette.validate = .ok () ↔ palette.Accepted := by
  unfold validate
  rw [Outcome.then_eq_ok, Outcome.then_eq_ok, Outcome.then_eq_ok, checkStars_eq_ok,
    Range.check_eq_ok, checkUnit_eq_ok, checkUnit_eq_ok]
  exact ⟨fun ⟨⟨nonempty, stars⟩, hue, saturation, lightness⟩ =>
      ⟨nonempty, stars, hue, saturation, lightness⟩,
    fun ⟨nonempty, stars, hue, saturation, lightness⟩ =>
      ⟨⟨nonempty, stars⟩, hue, saturation, lightness⟩⟩

end Palette

namespace NebulaSettings

structure Accepted (nebula : NebulaSettings) : Prop where
  blobs : nebula.blobs.min ≤ nebula.blobs.max
  blobOffsetX : nebula.blobOffsetX.IsOrdered
  blobOffsetY : nebula.blobOffsetY.IsOrdered
  blobRadius : nebula.blobRadius.IsNonNegative
  blobAlpha : nebula.blobAlpha.IsUnit
  alpha : nebula.alpha.IsUnit
  speedX : nebula.speedX.IsOrdered
  speedY : nebula.speedY.IsOrdered
  spawnHeightFraction : IsUnit nebula.spawnHeightFraction

theorem validate_eq_ok (nebula : NebulaSettings) : nebula.validate = .ok () ↔ nebula.Accepted := by
  unfold validate
  simp only [Outcome.then_eq_ok, CountRange.check_eq_ok, Range.check_eq_ok,
    Range.checkNonNegative_eq_ok, Range.checkUnit_eq_ok, checkUnit_eq_ok]
  constructor
  · rintro ⟨blobs, offsetX, offsetY, radius, blobAlpha, alpha, speedX, speedY, height⟩
    exact ⟨blobs, offsetX, offsetY, radius, blobAlpha, alpha, speedX, speedY, height⟩
  · rintro ⟨blobs, offsetX, offsetY, radius, blobAlpha, alpha, speedX, speedY, height⟩
    exact ⟨blobs, offsetX, offsetY, radius, blobAlpha, alpha, speedX, speedY, height⟩

end NebulaSettings

structure Vignette.Accepted (vignette : Vignette) : Prop where
  strength : IsUnit vignette.strength
  reach : Range.IsNonNegative ⟨vignette.inner, vignette.outer⟩

structure LightBeam.Accepted (beam : LightBeam) : Prop where
  alpha : IsUnit beam.alpha
  widthFraction : IsNonNegative beam.widthFraction
  angle : IsFinite beam.angle
  offsetFraction : IsFinite beam.offsetFraction

namespace Overlay

structure Accepted (overlay : Overlay) : Prop where
  vignette : forall vignette, vignette ∈ overlay.vignette -> vignette.Accepted
  lightBeam : forall beam, beam ∈ overlay.lightBeam -> beam.Accepted

theorem validateVignette_eq_ok (vignette : Vignette) :
    validateVignette vignette = .ok () ↔ vignette.Accepted := by
  unfold validateVignette
  rw [Outcome.then_eq_ok, checkUnit_eq_ok, Range.checkNonNegative_eq_ok]
  exact ⟨fun ⟨strength, reach⟩ => ⟨strength, reach⟩, fun ⟨strength, reach⟩ => ⟨strength, reach⟩⟩

theorem validateLightBeam_eq_ok (beam : LightBeam) :
    validateLightBeam beam = .ok () ↔ beam.Accepted := by
  unfold validateLightBeam
  rw [Outcome.then_eq_ok, Outcome.then_eq_ok, checkUnit_eq_ok, checkNonNegative_eq_ok, isNonNegative_widen_iff,
    Outcome.refusal_eq_ok, Bool.not_eq_false', Bool.and_eq_true, isFinite_single, isFinite_single]
  exact ⟨fun ⟨alpha, width, angle, offset⟩ => ⟨alpha, width, angle, offset⟩,
    fun ⟨alpha, width, angle, offset⟩ => ⟨alpha, width, angle, offset⟩⟩

theorem validate_eq_ok (overlay : Overlay) : overlay.validate = .ok () ↔ overlay.Accepted := by
  unfold validate
  rw [Outcome.then_eq_ok, Outcome.option_forM_eq_ok, Outcome.option_forM_eq_ok]
  simp only [validateVignette_eq_ok, validateLightBeam_eq_ok]
  exact ⟨fun ⟨vignette, beam⟩ => ⟨vignette, beam⟩, fun ⟨vignette, beam⟩ => ⟨vignette, beam⟩⟩

end Overlay

namespace FieldSettings

structure Accepted (settings : FieldSettings) : Prop where
  layers : forall layer, layer ∈ settings.layers -> layer.size.IsNonNegative
  starAlpha : settings.starAlpha.IsUnit
  starSpeedX : settings.starSpeed.x.IsOrdered
  starSpeedY : settings.starSpeed.y.IsOrdered
  glow : settings.glow.IsNonNegative
  alphaClamp : settings.alphaClamp.IsUnit
  palette : settings.palette.Accepted
  nebula : settings.nebula.Accepted
  speedScale : IsNonNegative settings.motion.speedScale
  maxFrameMs : IsNonNegative settings.motion.maxFrameMs
  amplitude : IsNonNegative settings.twinkle.amplitude
  frequency : IsNonNegative settings.twinkle.frequency
  overlay : settings.overlay.Accepted

/-- Validation passes exactly the settings whose parts are all accepted. -/
theorem validate_eq_ok (settings : FieldSettings) :
    settings.validate = .ok () ↔ settings.Accepted := by
  unfold validate
  simp only [Outcome.then_eq_ok, Outcome.forM_eq_ok, Range.check_eq_ok,
    Range.checkNonNegative_eq_ok, Range.checkUnit_eq_ok, Palette.validate_eq_ok,
    NebulaSettings.validate_eq_ok, checkNonNegative_eq_ok, isNonNegative_widen_iff,
    Overlay.validate_eq_ok]
  constructor
  · rintro ⟨layers, starAlpha, speedX, speedY, glow, alphaClamp, palette, nebula, scale, frame,
      amplitude, frequency, overlay⟩
    exact ⟨layers, starAlpha, speedX, speedY, glow, alphaClamp, palette, nebula, scale, frame,
      amplitude, frequency, overlay⟩
  · rintro ⟨layers, starAlpha, speedX, speedY, glow, alphaClamp, palette, nebula, scale, frame,
      amplitude, frequency, overlay⟩
    exact ⟨layers, starAlpha, speedX, speedY, glow, alphaClamp, palette, nebula, scale, frame,
      amplitude, frequency, overlay⟩

theorem accepted_default : Accepted {} :=
  (validate_eq_ok {}).mp rfl

end FieldSettings

/-- A finite number above zero. -/
structure IsPositive (x : Float) : Prop where
  finite : IsFinite x
  positive : 0 < exact x

theorem isPositive_iff (value : Float) :
    (value.isFinite && 0 < value) = true ↔ IsPositive value := by
  rw [Bool.and_eq_true, decide_eq_true_iff, isFinite_double, lt_iff, exact_double_zero]
  exact ⟨fun ⟨finite, above⟩ => ⟨finite, above.2.2⟩,
    fun ⟨finite, above⟩ => ⟨finite, rfl, finite.isDefined, above⟩⟩

namespace Settings

structure Accepted (settings : Settings) : Prop where
  field : settings.field.Accepted
  resizeDebounceMs : IsNonNegative settings.host.resizeDebounceMs
  targetFps : settings.host.targetFps ≠ 0
  pixelRatio : IsPositive settings.window.pixelRatio

theorem validate_eq_ok (settings : Settings) : settings.validate = .ok () ↔ settings.Accepted := by
  unfold validate
  rw [Outcome.then_eq_ok, Outcome.then_eq_ok, FieldSettings.validate_eq_ok, checkNonNegative_eq_ok]
  by_cases stopped : settings.host.targetFps = 0
  · simp only [if_pos stopped]
    exact iff_of_false (fun passed => nomatch passed.2.2) fun accepted => accepted.targetFps stopped
  · simp only [if_neg stopped]
    rw [Outcome.refusal_eq_ok, Bool.not_eq_false', isPositive_iff]
    exact ⟨fun ⟨field, quiet, ratio⟩ => ⟨field, quiet, stopped, ratio⟩,
      fun ⟨field, quiet, _, ratio⟩ => ⟨field, quiet, ratio⟩⟩

end Settings

end Starfield
