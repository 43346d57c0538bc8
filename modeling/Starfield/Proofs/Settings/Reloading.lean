import Starfield.Proofs.Number.Equality
import Starfield.Proofs.Settings.Accepted
import Starfield.Proofs.Settings.Partial

namespace Starfield

/-!
# Settings that equal themselves

Settings are read again to see whether they have changed, that is, whether they
are unequal to the ones in use.  An undefined number is unequal to itself, so
settings with such a number have changed whenever they are looked at.
Validation refuses undefined numbers everywhere but in the colors of the
background and of the overlays, which it does not look at.
-/

/-! ## Validated parts -/

theorem IsUnit.beq_self {x : Float32} (unit : IsUnit x) : (x == x) = true :=
  (single_beq_self_iff x).mpr unit.finite.isDefined

theorem IsNonNegative.beq_self {x : Float32} (number : IsNonNegative x) : (x == x) = true :=
  (single_beq_self_iff x).mpr number.finite.isDefined

theorem Range.IsOrdered.beq_self {range : Range} (ordered : range.IsOrdered) :
    (range == range) = true := by
  change (range.min == range.min && range.max == range.max) = true
  rw [(single_beq_self_iff _).mpr ordered.min_finite.isDefined,
    (single_beq_self_iff _).mpr ordered.max_finite.isDefined]
  rfl

theorem Rgb.IsNormal.beq_self {color : Rgb} (normal : color.IsNormal) : (color == color) = true := by
  change (color.red == color.red && (color.green == color.green && color.blue == color.blue)) = true
  rw [normal.red.beq_self, normal.green.beq_self, normal.blue.beq_self]
  rfl

theorem list_beq_self {α : Type} [BEq α] {items : List α}
    (each : forall item, item ∈ items -> (item == item) = true) : (items == items) = true := by
  induction items with
  | nil => rfl
  | cons item items ih =>
      rw [List.cons_beq_cons, each item List.mem_cons_self,
        ih fun other member => each other (List.mem_cons_of_mem item member)]
      rfl

theorem Palette.Accepted.beq_self {palette : Palette} (accepted : palette.Accepted) :
    (palette == palette) = true := by
  change (palette.stars == palette.stars && (palette.nebulaHue == palette.nebulaHue &&
    (palette.nebulaSaturation == palette.nebulaSaturation &&
      palette.nebulaLightness == palette.nebulaLightness))) = true
  rw [list_beq_self fun color member => (accepted.stars color member).beq_self,
    accepted.nebulaHue.beq_self, accepted.nebulaSaturation.beq_self,
    accepted.nebulaLightness.beq_self]
  rfl

theorem CountRange.beq_self (range : CountRange) : (range == range) = true := by
  change (range.min == range.min && range.max == range.max) = true
  rw [beq_self_eq_true, beq_self_eq_true]
  rfl

theorem NebulaSettings.Accepted.beq_self {nebula : NebulaSettings} (accepted : nebula.Accepted) :
    (nebula == nebula) = true := by
  change (nebula.count == nebula.count && (nebula.blobs == nebula.blobs &&
    (nebula.blobOffsetX == nebula.blobOffsetX && (nebula.blobOffsetY == nebula.blobOffsetY &&
    (nebula.blobRadius == nebula.blobRadius && (nebula.blobAlpha == nebula.blobAlpha &&
    (nebula.alpha == nebula.alpha && (nebula.speedX == nebula.speedX &&
    (nebula.speedY == nebula.speedY &&
      nebula.spawnHeightFraction == nebula.spawnHeightFraction))))))))) = true
  rw [beq_self_eq_true, nebula.blobs.beq_self, accepted.blobOffsetX.beq_self,
    accepted.blobOffsetY.beq_self, accepted.blobRadius.beq_self, accepted.blobAlpha.beq_self,
    accepted.alpha.beq_self, accepted.speedX.beq_self, accepted.speedY.beq_self,
    accepted.spawnHeightFraction.beq_self]
  rfl

theorem FieldSettings.Accepted.layers_beq_self {settings : FieldSettings}
    (accepted : settings.Accepted) : (settings.layers == settings.layers) = true := by
  refine list_beq_self fun layer member => ?_
  change (layer.count == layer.count && layer.size == layer.size) = true
  rw [beq_self_eq_true, (accepted.layers layer member).beq_self]
  rfl

/-! ## Colors that are not validated -/

structure Pigment.IsDefined (pigment : Pigment) : Prop where
  red : Starfield.IsDefined pigment.red.value
  green : Starfield.IsDefined pigment.green.value
  blue : Starfield.IsDefined pigment.blue.value

theorem Pigment.beq_self_iff (pigment : Pigment) :
    (pigment == pigment) = true ↔ pigment.IsDefined := by
  change (pigment.red.value == pigment.red.value && (pigment.green.value == pigment.green.value &&
    pigment.blue.value == pigment.blue.value)) = true ↔ _
  rw [Bool.and_eq_true, Bool.and_eq_true, single_beq_self_iff, single_beq_self_iff,
    single_beq_self_iff]
  exact ⟨fun ⟨red, green, blue⟩ => ⟨red, green, blue⟩, fun ⟨red, green, blue⟩ => ⟨red, green, blue⟩⟩

structure Backdrop.IsDefined (backdrop : Backdrop) : Prop where
  red : Starfield.IsDefined backdrop.red.value
  green : Starfield.IsDefined backdrop.green.value
  blue : Starfield.IsDefined backdrop.blue.value
  alpha : Starfield.IsDefined backdrop.alpha.value

theorem Backdrop.beq_self_iff (backdrop : Backdrop) :
    (backdrop == backdrop) = true ↔ backdrop.IsDefined := by
  change (backdrop.red.value == backdrop.red.value &&
    (backdrop.green.value == backdrop.green.value && (backdrop.blue.value == backdrop.blue.value &&
      backdrop.alpha.value == backdrop.alpha.value))) = true ↔ _
  rw [Bool.and_eq_true, Bool.and_eq_true, Bool.and_eq_true, single_beq_self_iff,
    single_beq_self_iff, single_beq_self_iff, single_beq_self_iff]
  exact ⟨fun ⟨red, green, blue, alpha⟩ => ⟨red, green, blue, alpha⟩,
    fun ⟨red, green, blue, alpha⟩ => ⟨red, green, blue, alpha⟩⟩

theorem Vignette.Accepted.beq_self_iff {vignette : Vignette} (accepted : vignette.Accepted) :
    (vignette == vignette) = true ↔ vignette.color.IsDefined := by
  have inner : (vignette.inner == vignette.inner) = true :=
    (single_beq_self_iff _).mpr accepted.reach.min_finite.isDefined
  have outer : (vignette.outer == vignette.outer) = true :=
    (single_beq_self_iff _).mpr accepted.reach.max_finite.isDefined
  rw [← Pigment.beq_self_iff]
  change (vignette.inner == vignette.inner && (vignette.outer == vignette.outer &&
    (vignette.strength == vignette.strength && vignette.color == vignette.color))) = true ↔ _
  rw [inner, outer, accepted.strength.beq_self]
  rfl

theorem LightBeam.Accepted.beq_self_iff {beam : LightBeam} (accepted : beam.Accepted) :
    (beam == beam) = true ↔ beam.color.IsDefined := by
  rw [← Pigment.beq_self_iff]
  change (beam.angle == beam.angle && (beam.widthFraction == beam.widthFraction &&
    (beam.offsetFraction == beam.offsetFraction && (beam.color == beam.color &&
      beam.alpha == beam.alpha)))) = true ↔ _
  rw [(single_beq_self_iff _).mpr accepted.angle.isDefined, accepted.widthFraction.beq_self,
    (single_beq_self_iff _).mpr accepted.offsetFraction.isDefined, accepted.alpha.beq_self,
    Bool.true_and, Bool.true_and, Bool.true_and, Bool.and_true]

theorem option_beq_self_iff {α : Type} [BEq α] (item? : Option α) :
    (item? == item?) = true ↔ forall item, item ∈ item? -> (item == item) = true := by
  cases item? with
  | none => exact iff_of_true rfl nofun
  | some item => exact ⟨fun same _ member => by cases member; exact same, fun all => all item rfl⟩

/-- No channel of the background or of an overlay is undefined. -/
structure FieldSettings.HasDefinedColors (settings : FieldSettings) : Prop where
  background : settings.background.IsDefined
  vignette : forall vignette, vignette ∈ settings.overlay.vignette -> vignette.color.IsDefined
  lightBeam : forall beam, beam ∈ settings.overlay.lightBeam -> beam.color.IsDefined

theorem Overlay.Accepted.beq_self_iff {overlay : Overlay} (accepted : overlay.Accepted) :
    (overlay == overlay) = true ↔
      (forall vignette, vignette ∈ overlay.vignette -> vignette.color.IsDefined) ∧
        forall beam, beam ∈ overlay.lightBeam -> beam.color.IsDefined := by
  change (overlay.vignette == overlay.vignette && overlay.lightBeam == overlay.lightBeam) = true ↔ _
  rw [Bool.and_eq_true, option_beq_self_iff, option_beq_self_iff]
  exact and_congr (forall₂_congr fun _ member => (accepted.vignette _ member).beq_self_iff)
    (forall₂_congr fun _ member => (accepted.lightBeam _ member).beq_self_iff)

namespace FieldSettings

variable {settings : FieldSettings}

theorem Accepted.beq_self_iff (accepted : settings.Accepted) :
    (settings == settings) = true ↔ settings.HasDefinedColors := by
  have speed : (settings.starSpeed == settings.starSpeed) = true := by
    change (settings.starSpeed.x == settings.starSpeed.x &&
      settings.starSpeed.y == settings.starSpeed.y) = true
    rw [accepted.starSpeedX.beq_self, accepted.starSpeedY.beq_self]
    rfl
  have motion : (settings.motion == settings.motion) = true := by
    change (settings.motion.speedScale == settings.motion.speedScale &&
      settings.motion.maxFrameMs == settings.motion.maxFrameMs) = true
    rw [accepted.speedScale.beq_self, (double_beq_self_iff _).mpr accepted.maxFrameMs.finite.isDefined]
    rfl
  have twinkle : (settings.twinkle == settings.twinkle) = true := by
    change (settings.twinkle.amplitude == settings.twinkle.amplitude &&
      settings.twinkle.frequency == settings.twinkle.frequency) = true
    rw [accepted.amplitude.beq_self, accepted.frequency.beq_self]
    rfl
  change (settings.seed == settings.seed && (settings.layers == settings.layers &&
    (settings.starAlpha == settings.starAlpha && (settings.starSpeed == settings.starSpeed &&
    (settings.glowEnabled == settings.glowEnabled && (settings.glow == settings.glow &&
    (settings.palette == settings.palette && (settings.nebula == settings.nebula &&
    (settings.motion == settings.motion && (settings.twinkle == settings.twinkle &&
    (settings.alphaClamp == settings.alphaClamp && (settings.overlay == settings.overlay &&
      settings.background == settings.background)))))))))))) = true ↔ _
  rw [beq_self_eq_true, accepted.layers_beq_self, accepted.starAlpha.beq_self, speed,
    beq_self_eq_true, accepted.glow.beq_self, accepted.palette.beq_self, accepted.nebula.beq_self,
    motion, twinkle, accepted.alphaClamp.beq_self]
  simp only [Bool.true_and]
  rw [Bool.and_eq_true, accepted.overlay.beq_self_iff, Backdrop.beq_self_iff]
  exact ⟨fun ⟨⟨vignette, beam⟩, background⟩ => ⟨background, vignette, beam⟩,
    fun ⟨background, vignette, beam⟩ => ⟨⟨vignette, beam⟩, background⟩⟩

end FieldSettings

namespace Settings

theorem Accepted.beq_self_iff {settings : Settings} (accepted : settings.Accepted) :
    (settings == settings) = true ↔ settings.field.HasDefinedColors := by
  have window : (settings.window == settings.window) = true := by
    change (settings.window.width == settings.window.width &&
      (settings.window.height == settings.window.height &&
        settings.window.pixelRatio == settings.window.pixelRatio)) = true
    rw [beq_self_eq_true, beq_self_eq_true,
      (double_beq_self_iff _).mpr accepted.pixelRatio.finite.isDefined]
    rfl
  have host : (settings.host == settings.host) = true := by
    change (settings.host.resizeDebounceMs == settings.host.resizeDebounceMs &&
      settings.host.targetFps == settings.host.targetFps) = true
    rw [(double_beq_self_iff _).mpr accepted.resizeDebounceMs.finite.isDefined, beq_self_eq_true]
    rfl
  have debug : (settings.debug == settings.debug) = true := by
    change (settings.debug.showFps == settings.debug.showFps &&
      settings.debug.logLevel == settings.debug.logLevel) = true
    rw [beq_self_eq_true, beq_self_eq_true]
    rfl
  rw [← accepted.field.beq_self_iff]
  change (settings.window == settings.window && (settings.field == settings.field &&
    (settings.host == settings.host && settings.debug == settings.debug))) = true ↔ _
  rw [window, host, debug, Bool.true_and, Bool.and_self, Bool.and_true]

/-! ## Reading again -/

/-- Settings that are read as the ones in use count as changed only if they are
unequal to themselves. -/
theorem reload_of_read {settings : Settings} {directory : Path} {tree : FileTree}
    (valid : settings.validate = .ok ())
    (holds : (read (m := StateM FileTree) directory).run tree = (.ok settings, tree)) :
    (settings.reload (m := StateM FileTree) directory).run tree =
      (.ok (if settings == settings then none else some settings), tree) := by
  rw [reload, StateT.run_bind, holds]
  change (if settings == settings then .ok none else settings.accepted.map some, tree) = _
  rw [accepted_of_valid valid]
  split_ifs <;> rfl

/-- Settings that were loaded and are looked at again, in the tree that loading
has left, have not changed exactly if their colors are defined.  Otherwise they
are reported as new ones although they are the same, bit for bit. -/
theorem reload_after_loadOrCreate {directory : Path} {before after : FileTree}
    {settings : Settings}
    (loaded : (loadOrCreate (m := StateM FileTree) directory).run before = (.ok settings, after)) :
    Exists fun report =>
      (settings.reload (m := StateM FileTree) directory).run after = (.ok report, after) ∧
        (report = none ↔ settings.field.HasDefinedColors) ∧
        forall fresh, fresh ∈ report -> fresh = settings := by
  rcases read_of_loadOrCreate loaded with ⟨valid, -, holds⟩
  have accepted := (validate_eq_ok settings).mp valid
  refine ⟨_, reload_of_read valid holds, ?_, ?_⟩
  · rw [← accepted.beq_self_iff]
    cases same : settings == settings
    · exact iff_of_false nofun Bool.false_ne_true
    · exact iff_of_true rfl rfl
  · intro fresh member
    split_ifs at member
    · cases member
    · exact (Option.some.inj member).symm

theorem hasDefinedColors_default : FieldSettings.HasDefinedColors {} :=
  ⟨⟨rfl, rfl, rfl, rfl⟩, nofun, nofun⟩

/-- The default settings, which are written where there are none, have not
changed, and neither have settings that are read from a file with part of a
document. -/
theorem reload_after_loadOrCreate_default :
    (Exists fun after =>
      (loadOrCreate (m := StateM FileTree) ⟨"stars"⟩).run {} = (.ok {}, after) ∧
        (({} : Settings).reload (m := StateM FileTree) ⟨"stars"⟩).run after = (.ok none, after)) ∧
    (loadOrCreate (m := StateM FileTree) ⟨"stars"⟩).run nightTree = (.ok restoredNight, nightTree) ∧
      (restoredNight.reload (m := StateM FileTree) ⟨"stars"⟩).run nightTree =
        (.ok none, nightTree) := by
  constructor
  · have loaded : (loadOrCreate (m := StateM FileTree) ⟨"stars"⟩).run {} =
        (.ok {}, ((loadOrCreate (m := StateM FileTree) ⟨"stars"⟩).run {}).2) := rfl
    rcases reload_after_loadOrCreate loaded with ⟨report, again, unchanged, -⟩
    rw [unchanged.mpr hasDefinedColors_default] at again
    exact ⟨_, loaded, again⟩
  · have loaded : (loadOrCreate (m := StateM FileTree) ⟨"stars"⟩).run nightTree =
        (.ok restoredNight, nightTree) :=
      loadOrCreate_of_text rfl (ofDocument?_of_edited edited_partialNight) rfl
    rcases reload_after_loadOrCreate loaded with ⟨report, again, unchanged, -⟩
    have colors : restoredNight.field.HasDefinedColors :=
      ⟨⟨rfl, rfl, rfl, rfl⟩, by rintro vignette ⟨⟩; exact ⟨rfl, rfl, rfl⟩, nofun⟩
    rw [unchanged.mpr colors] at again
    exact ⟨loaded, again⟩

/-- A background without a red channel. -/
def colorlessSky : Settings where
  field := { background := ⟨.number Binary.undefined, .number 0, .number 0, .number 0⟩ }

/-- So there are settings that are loaded and are then reported as changed. -/
theorem exists_unchanged_reported : Exists fun tree => Exists fun fresh =>
    (loadOrCreate (m := StateM FileTree) ⟨"stars"⟩).run tree = (.ok colorlessSky, tree) ∧
      (colorlessSky.reload (m := StateM FileTree) ⟨"stars"⟩).run tree = (.ok (some fresh), tree) := by
  let tree : FileTree := ((colorlessSky.save (m := StateM FileTree) ⟨"stars"⟩).run {}).2
  have valid : colorlessSky.validate = .ok () := rfl
  have holds : tree.readBytes ((⟨"stars"⟩ : Path).join fileName) =
    .ok colorlessSky.document.toUTF8 := rfl
  have loaded := loadOrCreate_of_document valid holds
  rcases read_of_loadOrCreate loaded with ⟨-, -, again⟩
  have reported := reload_of_read valid again
  rw [show (colorlessSky == colorlessSky) = false by decide, if_neg Bool.false_ne_true] at reported
  exact ⟨tree, colorlessSky, loaded, reported⟩

end Settings

end Starfield
