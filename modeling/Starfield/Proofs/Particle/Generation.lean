import Starfield.Particle.Population
import Starfield.Proofs.Random.Yields
import Starfield.Proofs.Settings.Accepted

namespace Starfield

open Sampler (IsFraction IsPoint Yields)

/-!
# Generated particles

What a layout can put into a view, attribute by attribute, whatever words it
draws.  Only two of the checks on settings matter here: there is a star color
to choose, and the bounds for the number of blobs are in order.  With them a
layout cannot fail.
-/

variable {σ : Type} [WordSource σ]

namespace Star

/-- A star as it can be drawn for a layer. -/
structure Drawn (settings : FieldSettings) (viewport : Viewport) (index : ℕ) (layer : StarLayer)
    (star : Star Float32) : Prop where
  color : star.color ∈ settings.palette.stars
  x : Exists fun t => IsFraction t ∧
    star.position.x = Motion.wrap (t * viewport.width) viewport.width
  y : Exists fun t => IsFraction t ∧
    star.position.y = Motion.wrap (t * viewport.height) viewport.height
  size : IsPoint layer.size star.size
  baseAlpha : IsPoint settings.starAlpha star.baseAlpha
  velocityX : IsPoint settings.starSpeed.x star.velocity.x
  velocityY : IsPoint settings.starSpeed.y star.velocity.y
  glow : if settings.glowEnabled then IsPoint settings.glow star.glow else star.glow = 0
  layer : star.layer = index

theorem yields_sample {settings : FieldSettings} (colored : settings.palette.stars ≠ [])
    (viewport : Viewport) (index : ℕ) (layer : StarLayer) :
    Yields (Drawn settings viewport index layer)
      (sample settings viewport index layer : SamplerFrom σ _) := by
  refine (Sampler.yields_choice colored).bind fun color member => ?_
  refine Sampler.yields_fraction.bind fun x horizontal => ?_
  refine Sampler.yields_fraction.bind fun y vertical => ?_
  refine (Sampler.yields_inRange _).bind fun size inSize => ?_
  refine (Sampler.yields_inRange _).bind fun baseAlpha inAlpha => ?_
  refine (Sampler.yields_inRange _).bind fun velocityX inX => ?_
  refine (Sampler.yields_inRange _).bind fun velocityY inY => ?_
  refine (Sampler.yields_inRange _).bind fun glow inGlow => .pure ?_
  exact {
    color := member
    x := ⟨x, horizontal, rfl⟩
    y := ⟨y, vertical, rfl⟩
    size := inSize
    baseAlpha := inAlpha
    velocityX := inX
    velocityY := inY
    glow := by cases enabled : settings.glowEnabled <;> simp [inGlow]
    layer := rfl }

/-- The stars of layers whose first has the given index: as many for each
layer as it counts, one layer after the other. -/
def DrawnLayers (settings : FieldSettings) (viewport : Viewport) :
    (index : ℕ) -> List StarLayer -> List (Star Float32) -> Prop
  | _, [], stars => stars = []
  | index, layer :: layers, stars =>
    Exists fun first => Exists fun rest => stars = first ++ rest ∧
      first.length = layer.count.toNat ∧
      (forall star, star ∈ first -> Drawn settings viewport index layer star) ∧
      DrawnLayers settings viewport (index + 1) layers rest

theorem yields_sampleLayers {settings : FieldSettings} (colored : settings.palette.stars ≠ [])
    (viewport : Viewport) (index : ℕ) (layers : List StarLayer) :
    Yields (DrawnLayers settings viewport index layers)
      (sampleLayers settings viewport index layers : SamplerFrom σ _) := by
  induction layers generalizing index with
  | nil => exact .pure rfl
  | cons layer layers ih =>
      refine (Sampler.yields_replicate (yields_sample colored viewport index layer) _).bind ?_
      rintro first ⟨counted, drawn⟩
      exact (ih (index + 1)).bind fun rest others =>
        .pure ⟨first, rest, rfl, counted, drawn, others⟩

/-- Every star of the layers is one that can be drawn for one of them. -/
theorem DrawnLayers.drawn {settings : FieldSettings} {viewport : Viewport} {index : ℕ}
    {layers : List StarLayer} {stars : List (Star Float32)}
    (drawn : DrawnLayers settings viewport index layers stars) {star : Star Float32}
    (member : star ∈ stars) :
    Exists fun layer => Exists fun place =>
      layer ∈ layers ∧ Drawn settings viewport place layer star := by
  induction layers generalizing index stars with
  | nil =>
      rw [show stars = [] from drawn] at member
      cases member
  | cons layer layers ih =>
      rcases drawn with ⟨first, rest, rfl, -, own, others⟩
      rcases List.mem_append.mp member with inFirst | inRest
      · exact ⟨layer, index, List.mem_cons_self, own star inFirst⟩
      · rcases ih others inRest with ⟨later, place, listed, found⟩
        exact ⟨later, place, List.mem_cons_of_mem layer listed, found⟩

end Star

/-- A disc as it can be drawn for a nebula. -/
structure Blob.Drawn (settings : NebulaSettings) (palette : Palette) (blob : Blob Float32) :
    Prop where
  x : IsPoint settings.blobOffsetX blob.offset.x
  y : IsPoint settings.blobOffsetY blob.offset.y
  radius : IsPoint settings.blobRadius blob.radius
  alpha : IsPoint settings.blobAlpha blob.alpha
  color : Exists fun hue => IsPoint palette.nebulaHue hue ∧
    blob.color = .ofHsl hue palette.nebulaSaturation palette.nebulaLightness

theorem Blob.yields_sample (settings : NebulaSettings) (palette : Palette) :
    Yields (Drawn settings palette) (sample settings palette : SamplerFrom σ _) := by
  refine (Sampler.yields_inRange _).bind fun x inX => ?_
  refine (Sampler.yields_inRange _).bind fun y inY => ?_
  refine (Sampler.yields_inRange _).bind fun radius inRadius => ?_
  refine (Sampler.yields_inRange _).bind fun alpha inAlpha => ?_
  refine (Sampler.yields_inRange _).bind fun hue inHue => .pure ?_
  exact ⟨inX, inY, inRadius, inAlpha, hue, inHue, rfl⟩

namespace Nebula

/-- A nebula as it can be drawn for a view. -/
structure Drawn (settings : FieldSettings) (viewport : Viewport) (nebula : Nebula Float32) :
    Prop where
  x : Exists fun t => IsFraction t ∧ nebula.center.x = t * viewport.width
  y : Exists fun t => IsFraction t ∧
    nebula.center.y = t * (viewport.height * settings.nebula.spawnHeightFraction)
  alpha : IsPoint settings.nebula.alpha nebula.alpha
  velocityX : IsPoint settings.nebula.speedX nebula.velocity.x
  velocityY : IsPoint settings.nebula.speedY nebula.velocity.y
  count : settings.nebula.blobs.min.toNat ≤ nebula.blobs.length ∧
    nebula.blobs.length ≤ settings.nebula.blobs.max.toNat
  blobs : forall blob, blob ∈ nebula.blobs -> blob.Drawn settings.nebula settings.palette
  margin : nebula.margin = marginOf nebula.blobs

theorem yields_sample {settings : FieldSettings}
    (ordered : settings.nebula.blobs.min ≤ settings.nebula.blobs.max) (viewport : Viewport) :
    Yields (Drawn settings viewport) (sample settings viewport : SamplerFrom σ _) := by
  refine Sampler.yields_fraction.bind fun x horizontal => ?_
  refine Sampler.yields_fraction.bind fun y vertical => ?_
  refine (Sampler.yields_inRange _).bind fun alpha inAlpha => ?_
  refine (Sampler.yields_inRange _).bind fun velocityX inX => ?_
  refine (Sampler.yields_inRange _).bind fun velocityY inY => ?_
  refine (Sampler.yields_count ordered).bind fun count inCount => ?_
  refine (Sampler.yields_replicate (Blob.yields_sample _ _) count).bind fun blobs drawn => .pure ?_
  exact {
    x := ⟨x, horizontal, rfl⟩
    y := ⟨y, vertical, rfl⟩
    alpha := inAlpha
    velocityX := inX
    velocityY := inY
    count := drawn.1.symm ▸ inCount
    blobs := drawn.2
    margin := rfl }

end Nebula

namespace Population

/-- A population as a layout leaves it. -/
structure Drawn (settings : FieldSettings) (viewport : Viewport)
    (population : Population Float Float32) : Prop where
  stars : Star.DrawnLayers settings viewport 0 settings.layers population.stars
  nebulae : population.nebulae.length = settings.nebula.count.toNat ∧
    forall nebula, nebula ∈ population.nebulae -> nebula.Drawn settings viewport
  lastTick : population.lastTick = none

/-- A layout of accepted settings never fails. -/
theorem yields_sample {settings : FieldSettings} (accepted : settings.Accepted)
    (viewport : Viewport) :
    Yields (Drawn settings viewport) (sample settings viewport : SamplerFrom σ _) := by
  refine (Star.yields_sampleLayers accepted.palette.nonempty viewport 0 settings.layers).bind
    fun stars drawnStars => ?_
  exact (Sampler.yields_replicate (Nebula.yields_sample accepted.nebula.blobs viewport) _).bind
    fun nebulae drawnNebulae => .pure ⟨drawnStars, drawnNebulae, rfl⟩

end Population

end Starfield
