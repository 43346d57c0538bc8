import Starfield.Proofs.Particle.History

namespace Starfield

open Sampler (IsFraction IsPoint)

/-!
# Attributes in their ranges

A range is sampled at a fraction below one by a difference, a product and a
sum, each of them rounded.  The difference may be rounded up, so that the whole
of it would lead beyond the range.  But the largest fraction is short of one by
the last digit of a mantissa, and that brings the product below the rounded
difference again.  No number lies between a difference and what it is rounded
to, so the product is not above the exact difference either, and the sum does
not leave the range.  Where the grid is too fine for this argument nothing is
rounded at all.
-/

/-! ## Points of a range -/

section Points

variable {x y t : Float32}

/-- A fraction of a rounded difference is not above the exact one. -/
theorem exact_share_le (first : IsFinite x) (second : IsFinite y) (width : IsFinite (x - y))
    (ordered : exact y ≤ exact x) (fraction : IsFraction t) :
    exact ((x - y) * t) ≤ exact x - exact y := by
  have difference := rounds_sub first second
  have product := rounds_mul width fraction.finite
  have nonneg : 0 ≤ exact (x - y) := difference.ge .zero (sub_nonneg.mpr ordered)
  rcases le_or_gt (exact (x - y)) (exact x - exact y) with within | beyond
  · exact (product.le (isValue_exact _)
      (mul_le_of_le_one_right nonneg fraction.lt_one.le)).trans within
  -- The difference was rounded up, so its grid is not the finest one.
  have inside : exact x - exact y ≤ limit Float32 :=
    beyond.le.trans ((le_abs_self _).trans width.abs_exact_lt.le)
  have apart : 0 < exact x - exact y := by
    refine lt_of_le_of_ne (sub_nonneg.mpr ordered) fun same => beyond.ne ?_
    rw [difference.exact_eq, ← same]
    exact Exact.Representable.zero.rounded_eq.symm
  have coarse : Exact.spacing (Binary.format Float32) (exact (x - y)) ≠
      (Binary.format Float32).minExponent := by
    intro finest
    have same : Exact.spacing (Binary.format Float32) (exact x - exact y) =
        (Binary.format Float32).minExponent :=
      le_antisymm ((Exact.spacing_mono apart beyond.le).trans_eq finest) (le_max_right _ _)
    have value := (isValue_exact x).sub_of_finest (isValue_exact y) apart inside same
    exact beyond.ne (difference.exact_eq_of_isValue value).symm
  have shorter : exact ((x - y) * t) < exact (x - y) := by
    rcases fraction.exact_eq with ⟨count, small, equal⟩
    have scaled : exact (x - y) * exact t =
        count / 2 ^ (Binary.format Float32).mantissaBits * exact (x - y) := by
      rw [equal, mul_comm, zpow_neg, ← div_eq_mul_inv]
      rfl
    rw [product.exact_eq, scaled]
    exact Exact.rounded_mul_lt (isValue_exact _) (apart.trans beyond) coarse small
  by_contra above
  have reached := difference.le (isValue_exact ((x - y) * t)) (not_le.mp above).le
  exact shorter.not_ge reached

namespace Range

variable {range : Range}

/-- A point of a range that is not negative lies between its ends. -/
theorem IsNonNegative.lerp_spec (sound : range.IsNonNegative) (fraction : IsFraction t) :
    IsDefined (range.lerp t) ∧ exact range.min ≤ exact (range.lerp t) ∧
      exact (range.lerp t) ≤ exact range.max := by
  have ordered := sound.le
  have low := sound.nonneg
  have high := (abs_lt.mp sound.max_finite.abs_exact_lt).2
  have difference := rounds_sub sound.max_finite sound.min_finite
  have nonneg : 0 ≤ exact (range.max - range.min) := difference.ge .zero (by linarith)
  have room : exact (range.max - range.min) ≤ exact range.max :=
    difference.le (isValue_exact _) (by linarith)
  have width : IsFinite (range.max - range.min) :=
    difference.isFinite (by rw [abs_of_nonneg nonneg]; exact room.trans_lt high)
  have product := rounds_mul width fraction.finite
  have some : 0 ≤ exact ((range.max - range.min) * t) :=
    product.ge .zero (mul_nonneg nonneg fraction.nonneg)
  have share := exact_share_le sound.max_finite sound.min_finite width ordered fraction
  have finite : IsFinite ((range.max - range.min) * t) :=
    product.isFinite (by rw [abs_of_nonneg some]; linarith)
  have sum := rounds_add sound.min_finite finite
  exact ⟨sum.defined, sum.ge (isValue_exact _) (by linarith), sum.le (isValue_exact _) (by linarith)⟩

/-- Rounding can lead to the upper end. -/
example : (⟨1, 1.5⟩ : Range).lerp 0.99999994 = 1.5 := by decide +kernel

theorem IsNonNegative.contains_point (sound : range.IsNonNegative) {x : Float32}
    (point : IsPoint range x) : range.contains x = true := by
  rcases point with ⟨t, fraction, rfl⟩
  rcases sound.lerp_spec fraction with ⟨defined, low, high⟩
  unfold contains
  rw [Bool.and_eq_true, decide_eq_true_iff, decide_eq_true_iff,
    le_iff_exact sound.min_finite.isDefined defined, le_iff_exact defined sound.max_finite.isDefined]
  exact ⟨low, high⟩

end Range

end Points

/-! ## Attributes of particles -/

/-- A star looks as the settings and its own layer want it to. -/
structure Star.InRanges (settings : FieldSettings) (star : Star Float32) : Prop where
  color : star.color ∈ settings.palette.stars
  size : Exists fun layer => settings.layers[star.layer]? = some layer ∧
    layer.size.contains star.size = true
  baseAlpha : settings.starAlpha.contains star.baseAlpha = true
  glow : if settings.glowEnabled then settings.glow.contains star.glow = true else star.glow = 0

structure Blob.InRanges (settings : NebulaSettings) (blob : Blob Float32) : Prop where
  radius : settings.blobRadius.contains blob.radius = true
  alpha : settings.blobAlpha.contains blob.alpha = true

structure Nebula.InRanges (settings : NebulaSettings) (nebula : Nebula Float32) : Prop where
  alpha : settings.alpha.contains nebula.alpha = true
  blobs : forall blob, blob ∈ nebula.blobs -> blob.InRanges settings

structure Population.InRanges (settings : FieldSettings) (population : Population Float Float32) :
    Prop where
  stars : forall star, star ∈ population.stars -> star.InRanges settings
  nebulae : forall nebula, nebula ∈ population.nebulae -> nebula.InRanges settings.nebula

/-- The layer that a star was drawn for stands at the place that it names. -/
theorem Star.DrawnLayers.drawn_for {settings : FieldSettings} {view : Viewport} {index : ℕ}
    {layers : List StarLayer} {stars : List (Star Float32)}
    (drawn : DrawnLayers settings view index layers stars) {star : Star Float32}
    (member : star ∈ stars) : Exists fun place => Exists fun layer =>
      layers[place]? = some layer ∧ Drawn settings view (index + place) layer star := by
  induction layers generalizing index stars with
  | nil =>
      rw [show stars = [] from drawn] at member
      cases member
  | cons layer layers ih =>
      rcases drawn with ⟨first, rest, rfl, -, own, others⟩
      rcases List.mem_append.mp member with inFirst | inRest
      · exact ⟨0, layer, rfl, own star inFirst⟩
      · rcases ih others inRest with ⟨place, later, listed, found⟩
        refine ⟨place + 1, later, listed, ?_⟩
        rwa [Nat.add_right_comm] at found

section InRanges

variable {settings : FieldSettings} {view : Viewport}

theorem Star.Drawn.inRanges (accepted : settings.Accepted) {place : ℕ} {layer : StarLayer}
    (listed : settings.layers[place]? = some layer) {star : Star Float32}
    (drawn : Drawn settings view place layer star) : star.InRanges settings where
  color := drawn.color
  size := by
    have sound := accepted.layers layer (List.mem_of_getElem? listed)
    exact ⟨layer, drawn.layer ▸ listed, sound.contains_point drawn.size⟩
  baseAlpha := accepted.starAlpha.contains_point drawn.baseAlpha
  glow := by
    have glow := drawn.glow
    split_ifs at glow ⊢ with enabled
    · exact accepted.glow.contains_point glow
    · exact glow

theorem Nebula.Drawn.inRanges (accepted : settings.Accepted) {nebula : Nebula Float32}
    (drawn : Drawn settings view nebula) : nebula.InRanges settings.nebula where
  alpha := accepted.nebula.alpha.contains_point drawn.alpha
  blobs blob member := {
    radius := accepted.nebula.blobRadius.contains_point (drawn.blobs blob member).radius
    alpha := accepted.nebula.blobAlpha.contains_point (drawn.blobs blob member).alpha }

theorem Population.Drawn.inRanges (accepted : settings.Accepted)
    {population : Population Float Float32} (drawn : population.Drawn settings view) :
    population.InRanges settings where
  stars star member := by
    rcases drawn.stars.drawn_for member with ⟨place, layer, listed, shape⟩
    rw [Nat.zero_add] at shape
    exact shape.inRanges accepted listed
  nebulae nebula member := (drawn.nebulae.2 nebula member).inRanges accepted

end InRanges

/-- Ticks leave the attributes of particles alone. -/
theorem ParticleField.run_inRanges {settings : FieldSettings} {empty : ParticleField}
    (configured : configure settings = .ok empty) (calls : List FieldCall) :
    Exists fun field => empty.run calls = .ok field ∧ field.settings = settings ∧
      field.population.InRanges settings := by
  have accepted := (configure_eq_ok.mp configured).1
  refine run_induction configured (motive := fun _ field => field.population.InRanges settings)
    ?_ (fun _ _ _ _ _ drawn => drawn.inRanges accepted) ?_ calls
  · rcases configure_eq_ok.mp configured with ⟨-, rfl⟩
    exact ⟨nofun, nofun⟩
  · intro _ field timeMs steps _ _ _ before
    refine ⟨fun star member => ?_, fun nebula member => ?_⟩
    · rcases List.mem_map.mp member with ⟨star, inside, rfl⟩
      have kept := before.stars star inside
      exact ⟨kept.color, kept.size, kept.baseAlpha, kept.glow⟩
    · rcases List.mem_map.mp member with ⟨nebula, inside, rfl⟩
      have kept := before.nebulae nebula inside
      exact ⟨kept.alpha, kept.blobs⟩

namespace Population

/-- Whatever words a source has, its fractions are multiples of `2 ^ -24` below
one, and the particles that a layout of accepted settings makes of them have
all attributes in the ranges of the settings, both ends included. -/
theorem sample_inRanges {settings : FieldSettings} (passed : settings.validate = .ok ())
    (view : Viewport) {σ : Type} [WordSource σ] (source : σ) :
    (Exists fun t => Exists fun rest =>
      Sampler.fraction source = .ok (t, rest) ∧ IsFraction t) ∧
    Exists fun population => Exists fun rest =>
      sample settings view source = .ok (population, rest) ∧ population.InRanges settings := by
  have accepted := (FieldSettings.validate_eq_ok settings).mp passed
  rcases yields_sample accepted view source with ⟨population, rest, drawn, shaped⟩
  exact ⟨Sampler.yields_fraction source, population, rest, drawn, shaped.inRanges accepted⟩

/-- A source that has one word only. -/
structure Stuck where
  word : UInt32

instance : WordSource Stuck where
  word := Stuck.word
  advance := id

/-- Every attribute is drawn at the largest fraction. -/
theorem sample_inRanges_largestWord : FieldSettings.validate {} = .ok () ∧
    Exists fun population => Exists fun rest =>
      sample {} (.ofReadings 640 480 1) (⟨4294967295⟩ : Stuck) = .ok (population, rest) ∧
        population.InRanges {} := by
  have passed : FieldSettings.validate {} = .ok () := rfl
  exact ⟨passed, (sample_inRanges passed (.ofReadings 640 480 1) (⟨4294967295⟩ : Stuck)).2⟩

end Population

end Starfield
