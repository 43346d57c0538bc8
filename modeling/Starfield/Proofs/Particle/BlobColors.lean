import Starfield.Proofs.Color.Gamut
import Starfield.Proofs.Particle.History

namespace Starfield

open Sampler (IsPoint)

/-!
# Colors of nebulae

The discs of a nebula have the saturation and the lightness of the palette and
hues of its own range.  No tick changes a color, so what is known of the colors
of hues is known of the discs of every field that a history leads to.
-/

namespace ParticleField

theorem run_blobsDrawn {settings : FieldSettings} {empty : ParticleField}
    (configured : configure settings = .ok empty) (calls : List FieldCall) :
    Exists fun field => empty.run calls = .ok field ∧
      forall nebula, nebula ∈ field.population.nebulae -> forall blob, blob ∈ nebula.blobs ->
        blob.Drawn settings.nebula settings.palette := by
  rcases run_induction configured
    (motive := fun _ field => forall nebula, nebula ∈ field.population.nebulae ->
      forall blob, blob ∈ nebula.blobs -> blob.Drawn settings.nebula settings.palette)
    (by
      rcases configure_eq_ok.mp configured with ⟨-, rfl⟩
      exact fun nebula member => absurd member List.not_mem_nil)
    (fun _ _ _ _ _ drawn nebula member => (drawn.nebulae.2 nebula member).blobs)
    (fun _ _ _ _ _ _ _ kept nebula member => by
      rcases List.mem_map.mp member with ⟨before, inside, rfl⟩
      exact kept before inside) calls with ⟨field, reached, -, drawn⟩
  exact ⟨field, reached, drawn⟩

/-- The color of a hue can be shown exactly if no channel stands on the half
turn, or the crest does not exceed one there; and each disc of each nebula has
the color of a hue. -/
theorem hueColors_normalized_iff (hue saturation lightness : Float32)
    (saturated : IsFinite saturation) (light : IsFinite lightness) :
    Rgb.HslSpec hue saturation lightness ∧
    forall (settings : FieldSettings) (empty : ParticleField) (calls : List FieldCall),
      configure settings = .ok empty -> Exists fun field => empty.run calls = .ok field ∧
        forall nebula, nebula ∈ field.population.nebulae -> forall blob, blob ∈ nebula.blobs ->
          Exists fun hue => IsPoint settings.palette.nebulaHue hue ∧
            blob.color =
              .ofHsl hue settings.palette.nebulaSaturation settings.palette.nebulaLightness ∧
            Rgb.HslSpec hue settings.palette.nebulaSaturation settings.palette.nebulaLightness := by
  refine ⟨Rgb.ofHsl_spec hue saturated.isDefined light.isDefined, ?_⟩
  intro settings empty calls configured
  have palette := (configure_eq_ok.mp configured).1.palette
  rcases run_blobsDrawn configured calls with ⟨field, reached, drawn⟩
  refine ⟨field, reached, fun nebula member blob inside => ?_⟩
  rcases (drawn nebula member blob inside).color with ⟨hue, inRange, colored⟩
  exact ⟨hue, inRange, colored, Rgb.ofHsl_spec hue palette.nebulaSaturation.finite.isDefined
    palette.nebulaLightness.finite.isDefined⟩

/-- The default palette stays away from one, so all of its colors can be shown. -/
theorem blobColors_normalized_default :
    (Rgb.ofHsl 180 1 0.25).isNormalized = true ∧
      Exists fun field => (blank {}).run [.resize (.ofReadings 640 480 1), .tick 0] = .ok field ∧
        forall nebula, nebula ∈ field.population.nebulae -> forall blob, blob ∈ nebula.blobs ->
          blob.color.isNormalized = true := by
  have configured : configure {} = .ok (blank {}) :=
    configure_eq_ok.mpr ⟨FieldSettings.accepted_default, rfl⟩
  have low : Rgb.crest (Single.clampUnit 1) (Single.clampUnit 0.25) ≤ 1 := by decide +kernel
  have saturation : exact (Single.clampUnit 0.7) = 11744051 / 2 ^ 24 := by
    rw [exact_of_unpack (u := .finite .positive 11744051 (-24) (by decide)) rfl]
    norm_num [Exact.value, Exact.signed]
  have lightness : exact (Single.clampUnit 0.6) = 10066330 / 2 ^ 24 := by
    rw [exact_of_unpack (u := .finite .positive 10066330 (-24) (by decide)) rfl]
    norm_num [Exact.value, Exact.signed]
  rcases hueColors_normalized_iff 180 1 0.25 rfl rfl with ⟨half, drawn⟩
  rcases drawn {} (blank {}) [.resize (.ofReadings 640 480 1), .tick 0] configured with
    ⟨field, reached, colored⟩
  refine ⟨half.normalized_iff.mpr fun _ => low, field, reached,
    fun nebula member blob inside => ?_⟩
  rcases colored nebula member blob inside with ⟨hue, -, same, spec⟩
  rw [same]
  refine spec.spared ?_
  change 1 / 2 ^ 20 ≤ (1 - exact (Single.clampUnit 0.7)) * (1 - exact (Single.clampUnit 0.6))
  rw [saturation, lightness]
  norm_num

/-- So there is a color that cannot be shown, of a finite hue. -/
theorem exists_hueColor_not_normalized : Exists fun hue : Float32 => IsFinite hue ∧
    Exists fun saturation : Float32 => IsFinite saturation ∧
      Exists fun lightness : Float32 => IsFinite lightness ∧
        (Rgb.ofHsl hue saturation lightness).isNormalized = false :=
  ⟨180, rfl, 1, rfl, 0.5, rfl, by decide +kernel⟩

end ParticleField

end Starfield
