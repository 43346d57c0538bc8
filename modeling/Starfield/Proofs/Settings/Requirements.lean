import Starfield.Proofs.Settings.Accepted

namespace Starfield

/-!
# The first requirement that fails

Validation asks something of one setting after the other.  The requirements are
listed here in the order in which they are looked at, each with its setting, as
statements about exact numbers.  Validation decides the list: it passes settings
that meet every requirement, and any others it refuses for the setting of the
first requirement that they do not meet.
-/

/-- What is asked of a setting. -/
structure Requirement where
  setting : Setting
  holds : Prop

/-- The setting that settings are refused for. -/
def SettingsError.setting? : SettingsError -> Option Setting
  | invalidRange setting _ _ => some setting
  | invalidValue setting _ => some setting
  | read _ => none
  | write _ => none
  | malformed => none

namespace Requirement

/-- The outcome of a check is the right one for requirements in this order. -/
def Decides (requirements : List Requirement) : Except SettingsError Unit -> Prop
  | .ok _ => forall requirement, requirement ∈ requirements -> requirement.holds
  | .error refusal => Exists fun met => Exists fun failed => Exists fun others =>
      requirements = met ++ failed :: others ∧
        (forall requirement, requirement ∈ met -> requirement.holds) ∧ ¬failed.holds ∧
        refusal.setting? = some failed.setting

/-- A check refuses settings for this one only. -/
def Blames (setting : Setting) (check : Except SettingsError Unit) : Prop :=
  forall refusal, check = .error refusal -> refusal.setting? = some setting

section Single

variable {setting : Setting} {holds : Prop} {check : Except SettingsError Unit}

theorem Blames.then {other : Except SettingsError Unit} (first : Blames setting check)
    (second : Blames setting other) : Blames setting (check >>= fun _ => other) := by
  intro refusal refused
  cases check with
  | ok _ => exact second refusal refused
  | error cause =>
      cases refused
      exact first refusal rfl

/-- One check for one requirement. -/
theorem decides_single (passes : check = .ok () ↔ holds) (blames : Blames setting check) :
    Decides [⟨setting, holds⟩] check := by
  cases outcome : check with
  | ok _ =>
      intro requirement member
      cases List.mem_singleton.mp member
      exact passes.mp outcome
  | error refusal =>
      refine ⟨[], ⟨setting, holds⟩, [], rfl, nofun, fun met => ?_, blames refusal outcome⟩
      cases outcome.symm.trans (passes.mpr met)

end Single

section Lists

variable {first second : List Requirement} {check other : Except SettingsError Unit}

/-- Checks one after the other decide the requirements of both. -/
theorem Decides.then (decides : Decides first check) (rest : Decides second other) :
    Decides (first ++ second) (check >>= fun _ => other) := by
  cases check with
  | error refusal =>
      rcases decides with ⟨met, failed, others, rfl, all, fails, blamed⟩
      exact ⟨met, failed, others ++ second, by simp, all, fails, blamed⟩
  | ok _ =>
      have met (requirement : Requirement) (member : requirement ∈ first) : requirement.holds :=
        decides requirement member
      cases other with
      | error refusal =>
          rcases rest with ⟨more, failed, others, rfl, all, fails, blamed⟩
          refine ⟨first ++ more, failed, others, by simp, fun requirement member => ?_, fails, blamed⟩
          exact (List.mem_append.mp member).elim (met requirement) (all requirement)
      | ok _ =>
          intro requirement member
          exact (List.mem_append.mp member).elim (met requirement) (rest requirement)

theorem decides_forM {α : Type} {requirements : α -> List Requirement}
    {check : α -> Except SettingsError Unit} (decides : forall item, Decides (requirements item) (check item))
    (items : List α) : Decides (items.flatMap requirements) (items.forM check) := by
  induction items with
  | nil => exact nofun
  | cons item items ih =>
      rw [List.flatMap_cons]
      exact (decides item).then ih

theorem decides_option {α : Type} {requirements : α -> List Requirement}
    {check : α -> Except SettingsError Unit} (decides : forall item, Decides (requirements item) (check item))
    (item? : Option α) : Decides (item?.toList.flatMap requirements) (item?.forM check) := by
  cases item? with
  | none => exact nofun
  | some item =>
      rw [Option.toList_some, List.flatMap_singleton]
      exact decides item

/-- A decided list of requirements is met exactly if the check passes. -/
theorem Decides.eq_ok_iff (decides : Decides first check) :
    check = .ok () ↔ forall requirement, requirement ∈ first -> requirement.holds := by
  cases check with
  | ok _ => exact iff_of_true rfl decides
  | error refusal =>
      refine iff_of_false nofun fun all => ?_
      rcases decides with ⟨met, failed, others, rfl, -, fails, -⟩
      exact fails (all failed (by simp))

end Lists

end Requirement

open Requirement (Decides Blames decides_single)

/-! ## Checks of one setting -/

section Checks

variable (setting : Setting)

theorem Range.blames_check (range : Range) : Blames setting (range.check setting) := by
  unfold check
  split_ifs <;> rintro _ ⟨⟩
  rfl

theorem Range.blames_checkNonNegative (range : Range) :
    Blames setting (range.checkNonNegative setting) := by
  refine (range.blames_check setting).then ?_
  split_ifs <;> rintro _ ⟨⟩
  rfl

theorem Range.decides_check (range : Range) :
    Decides [⟨setting, range.IsOrdered⟩] (range.check setting) :=
  decides_single (range.check_eq_ok setting) (range.blames_check setting)

theorem Range.decides_checkNonNegative (range : Range) :
    Decides [⟨setting, range.IsNonNegative⟩] (range.checkNonNegative setting) :=
  decides_single (range.checkNonNegative_eq_ok setting) (range.blames_checkNonNegative setting)

theorem Range.decides_checkUnit (range : Range) :
    Decides [⟨setting, range.IsUnit⟩] (range.checkUnit setting) := by
  refine decides_single (range.checkUnit_eq_ok setting) ?_
  refine (range.blames_checkNonNegative setting).then ?_
  split_ifs <;> rintro _ ⟨⟩
  rfl

theorem CountRange.decides_check (range : CountRange) :
    Decides [⟨setting, range.min ≤ range.max⟩] (range.check setting) := by
  refine decides_single (range.check_eq_ok setting) ?_
  unfold check
  split_ifs <;> rintro _ ⟨⟩
  rfl

theorem decides_checkNonNegative (value : Float) :
    Decides [⟨setting, IsNonNegative value⟩] (checkNonNegative setting value) := by
  refine decides_single (checkNonNegative_eq_ok setting value) ?_
  unfold checkNonNegative
  split_ifs <;> rintro _ ⟨⟩
  rfl

/-- A single precision number is checked as the same number in double
precision. -/
theorem decides_checkNonNegative_widen (value : Float32) :
    Decides [⟨setting, IsNonNegative value⟩] (checkNonNegative setting (widen value)) := by
  have decides := decides_checkNonNegative setting (widen value)
  rwa [isNonNegative_widen_iff] at decides

theorem decides_checkUnit (value : Float32) :
    Decides [⟨setting, IsUnit value⟩] (checkUnit setting value) := by
  refine decides_single (checkUnit_eq_ok setting value) ?_
  unfold checkUnit
  split_ifs <;> rintro _ ⟨⟩
  rfl

/-- A refusal on a condition is a check of one setting. -/
theorem decides_refusal {refused : Bool} {holds : Prop} (reason : Reason)
    (passes : refused = false ↔ holds) :
    Decides [⟨setting, holds⟩]
      (if refused = true then throw (.invalidValue setting reason) else pure ()) := by
  refine decides_single (Outcome.refusal_eq_ok.trans passes) ?_
  split_ifs <;> rintro _ ⟨⟩
  rfl

end Checks

/-! ## The lists -/

namespace Palette

def requirements (palette : Palette) : List Requirement := [
  ⟨.paletteStars, palette.stars ≠ [] ∧ forall color, color ∈ palette.stars -> color.IsNormal⟩,
  ⟨.nebulaHue, palette.nebulaHue.IsOrdered⟩,
  ⟨.nebulaSaturation, IsUnit palette.nebulaSaturation⟩,
  ⟨.nebulaLightness, IsUnit palette.nebulaLightness⟩]

theorem decides_checkStars (palette : Palette) :
    Decides [⟨.paletteStars, palette.stars ≠ [] ∧
      forall color, color ∈ palette.stars -> color.IsNormal⟩] palette.checkStars := by
  refine decides_single palette.checkStars_eq_ok ?_
  unfold checkStars
  split_ifs
  · rintro _ ⟨⟩
    rfl
  · split <;> rintro _ ⟨⟩
    rfl

theorem decides_validate (palette : Palette) : Decides palette.requirements palette.validate :=
  palette.decides_checkStars.then <| (Range.decides_check _ _).then <|
    (decides_checkUnit _ _).then (decides_checkUnit _ _)

end Palette

namespace NebulaSettings

def requirements (nebula : NebulaSettings) : List Requirement := [
  ⟨.nebulaBlobs, nebula.blobs.min ≤ nebula.blobs.max⟩,
  ⟨.blobOffsetX, nebula.blobOffsetX.IsOrdered⟩,
  ⟨.blobOffsetY, nebula.blobOffsetY.IsOrdered⟩,
  ⟨.blobRadius, nebula.blobRadius.IsNonNegative⟩,
  ⟨.blobAlpha, nebula.blobAlpha.IsUnit⟩,
  ⟨.nebulaAlpha, nebula.alpha.IsUnit⟩,
  ⟨.nebulaSpeedX, nebula.speedX.IsOrdered⟩,
  ⟨.nebulaSpeedY, nebula.speedY.IsOrdered⟩,
  ⟨.spawnHeightFraction, IsUnit nebula.spawnHeightFraction⟩]

theorem decides_validate (nebula : NebulaSettings) : Decides nebula.requirements nebula.validate :=
  (CountRange.decides_check _ _).then <| (Range.decides_check _ _).then <|
    (Range.decides_check _ _).then <| (Range.decides_checkNonNegative _ _).then <|
    (Range.decides_checkUnit _ _).then <| (Range.decides_checkUnit _ _).then <|
    (Range.decides_check _ _).then <| (Range.decides_check _ _).then (decides_checkUnit _ _)

end NebulaSettings

namespace Overlay

def vignetteRequirements (vignette : Vignette) : List Requirement := [
  ⟨.vignetteStrength, IsUnit vignette.strength⟩,
  ⟨.vignette, Range.IsNonNegative ⟨vignette.inner, vignette.outer⟩⟩]

def lightBeamRequirements (beam : LightBeam) : List Requirement := [
  ⟨.beamAlpha, IsUnit beam.alpha⟩,
  ⟨.beamWidthFraction, IsNonNegative beam.widthFraction⟩,
  ⟨.lightBeam, IsFinite beam.angle ∧ IsFinite beam.offsetFraction⟩]

/-- Overlays that are not there meet every requirement. -/
def requirements (overlay : Overlay) : List Requirement :=
  overlay.vignette.toList.flatMap vignetteRequirements ++
    overlay.lightBeam.toList.flatMap lightBeamRequirements

theorem decides_validateVignette (vignette : Vignette) :
    Decides (vignetteRequirements vignette) (validateVignette vignette) :=
  (decides_checkUnit _ _).then (Range.decides_checkNonNegative _ _)

theorem decides_validateLightBeam (beam : LightBeam) :
    Decides (lightBeamRequirements beam) (validateLightBeam beam) := by
  have finite : (!(beam.angle.isFinite && beam.offsetFraction.isFinite)) = false ↔
      IsFinite beam.angle ∧ IsFinite beam.offsetFraction := by
    rw [Bool.not_eq_false', Bool.and_eq_true, isFinite_single, isFinite_single]
  exact (decides_checkUnit _ _).then <| (decides_checkNonNegative_widen _ _).then <|
    decides_refusal _ .beamNotFinite finite

theorem decides_validate (overlay : Overlay) : Decides overlay.requirements overlay.validate :=
  (Requirement.decides_option decides_validateVignette _).then
    (Requirement.decides_option decides_validateLightBeam _)

end Overlay

namespace FieldSettings

def requirements (settings : FieldSettings) : List Requirement :=
  settings.layers.flatMap (fun layer => [⟨.layersSize, layer.size.IsNonNegative⟩]) ++ [
    ⟨.starAlpha, settings.starAlpha.IsUnit⟩,
    ⟨.starSpeedX, settings.starSpeed.x.IsOrdered⟩,
    ⟨.starSpeedY, settings.starSpeed.y.IsOrdered⟩,
    ⟨.glow, settings.glow.IsNonNegative⟩,
    ⟨.alphaClamp, settings.alphaClamp.IsUnit⟩] ++
  settings.palette.requirements ++ settings.nebula.requirements ++ [
    ⟨.speedScale, IsNonNegative settings.motion.speedScale⟩,
    ⟨.maxFrameMs, IsNonNegative settings.motion.maxFrameMs⟩,
    ⟨.twinkleAmplitude, IsNonNegative settings.twinkle.amplitude⟩,
    ⟨.twinkleFrequency, IsNonNegative settings.twinkle.frequency⟩] ++
  settings.overlay.requirements

theorem decides_validate (settings : FieldSettings) :
    Decides settings.requirements settings.validate := by
  unfold requirements
  simp only [List.append_assoc]
  exact (Requirement.decides_forM (fun layer => Range.decides_checkNonNegative _ _) _).then <|
    (Range.decides_checkUnit _ _).then <| (Range.decides_check _ _).then <|
    (Range.decides_check _ _).then <| (Range.decides_checkNonNegative _ _).then <|
    (Range.decides_checkUnit _ _).then <| settings.palette.decides_validate.then <|
    settings.nebula.decides_validate.then <| (decides_checkNonNegative_widen _ _).then <|
    (decides_checkNonNegative _ _).then <| (decides_checkNonNegative_widen _ _).then <|
    (decides_checkNonNegative_widen _ _).then settings.overlay.decides_validate

end FieldSettings

namespace Settings

/-- Everything that is asked of settings, in the order of the checks. -/
def requirements (settings : Settings) : List Requirement :=
  settings.field.requirements ++ [
    ⟨.resizeDebounceMs, IsNonNegative settings.host.resizeDebounceMs⟩,
    ⟨.targetFps, 0 < settings.host.targetFps⟩,
    ⟨.pixelRatio, IsPositive settings.window.pixelRatio⟩]

/-- Validation passes exactly the settings that meet every requirement, and it
refuses any others for the setting of the first requirement that fails. -/
theorem validate_decides (settings : Settings) :
    (settings.validate = .ok () ↔
      forall requirement, requirement ∈ settings.requirements -> requirement.holds) ∧
    Decides settings.requirements settings.validate := by
  have rate : decide (settings.host.targetFps = 0) = false ↔ 0 < settings.host.targetFps := by
    rw [decide_eq_false_iff_not, UInt32.pos_iff_ne_zero]
  have ratio : (!(settings.window.pixelRatio.isFinite && 0 < settings.window.pixelRatio)) = false ↔
      IsPositive settings.window.pixelRatio := by
    rw [Bool.not_eq_false', isPositive_iff]
  have decides : Decides settings.requirements settings.validate := by
    refine settings.field.decides_validate.then <| (decides_checkNonNegative _ _).then ?_
    have rest := (decides_refusal .targetFps .zeroRate rate).then
      (decides_refusal .pixelRatio (.notPositive settings.window.pixelRatio) ratio)
    simp only [decide_eq_true_iff] at rest
    by_cases stopped : settings.host.targetFps = 0
    · simp only [if_pos stopped] at rest ⊢
      exact rest
    · simp only [if_neg stopped] at rest ⊢
      exact rest
  exact ⟨decides.eq_ok_iff, decides⟩

end Settings

end Starfield
