import Starfield.Proofs.Particle.InView
import Starfield.Proofs.Particle.MarginBand

namespace Starfield

open Motion (InBand InMarginBand InClosedBand IsMargin wrapWithMargin)
open Sampler (IsFraction IsPoint)

/-!
# Nebulae in their bands

The center of a nebula may leave the view by the margin of the nebula, on each
axis on its own.  A layout places it in the view, and a tick brings it back into
its band, with two exceptions.  It is lost if the place it drifts to, or that
place moved up by the margin, is not finite.  And it can come to stand on the
far end of its band, where it should have come back at the near one, if the sums
that make up the band are rounded outward.
-/

/-! ## Margins -/

namespace Motion

variable {x y bound : Float32}

/-- An undefined number never replaces a margin. -/
theorem IsMargin.larger (margin : IsMargin x) (y : Float32) : IsMargin (Single.larger x y) := by
  have defined : x.isNaN = false := margin.defined
  unfold Single.larger
  rw [defined, Bool.or_false]
  split_ifs with below
  · rw [decide_eq_true_iff, lt_iff] at below
    exact ⟨below.2.1, margin.nonneg.trans below.2.2.le⟩
  · exact margin

theorem exact_larger_le {bound : ℚ} (first : exact x ≤ bound) (second : exact y ≤ bound) :
    exact (Single.larger x y) ≤ bound := by
  unfold Single.larger
  split_ifs
  · exact second
  · exact first

end Motion

namespace Nebula

theorem isMargin_marginOf (blobs : List (Blob Float32)) :
    IsMargin (marginOf blobs).x ∧ IsMargin (marginOf blobs).y := by
  have zero : IsMargin 0 := ⟨rfl, exact_single_zero.ge⟩
  exact List.foldlRecOn (motive := fun margin : Point Float32 => IsMargin margin.x ∧ IsMargin margin.y)
    blobs _ ⟨zero, zero⟩ fun margin both blob _ =>
      ⟨both.1.larger blob.extent.x, both.2.larger blob.extent.y⟩

theorem exact_marginOf_le {blobs : List (Blob Float32)} {bound : ℚ} (nonneg : 0 ≤ bound)
    (small : forall blob, blob ∈ blobs -> exact blob.extent.x ≤ bound ∧ exact blob.extent.y ≤ bound) :
    exact (marginOf blobs).x ≤ bound ∧ exact (marginOf blobs).y ≤ bound := by
  have zero : exact (0 : Float32) ≤ bound := exact_single_zero.trans_le nonneg
  exact List.foldlRecOn
    (motive := fun margin : Point Float32 => exact margin.x ≤ bound ∧ exact margin.y ≤ bound)
    blobs _ ⟨zero, zero⟩ fun margin both blob member =>
      ⟨Motion.exact_larger_le both.1 (small blob member).1,
        Motion.exact_larger_le both.2 (small blob member).2⟩

/-! ## Bands -/

section Bands

variable (nebula : Nebula Float32) (view : Viewport)

/-- The center lies in its band, on each axis. -/
def InBand : Prop :=
  InMarginBand nebula.center.x view.width nebula.margin.x ∧
    InMarginBand nebula.center.y view.height nebula.margin.y

/-- The center has not been lost. -/
def HasPlace : Prop :=
  IsDefined nebula.center.x ∧ IsDefined nebula.center.y

/-- The center stands on no far end of its bands. -/
def IsOffTheEnd : Prop :=
  ¬view.width + nebula.margin.x ≤ nebula.center.x ∧
    ¬view.height + nebula.margin.y ≤ nebula.center.y

/-- Both bands are rounded toward their insides. -/
def RoundsInward : Prop :=
  Motion.RoundsInward view.width nebula.margin.x ∧
    Motion.RoundsInward view.height nebula.margin.y

/-- The center lies in its closed band on every axis on which it is not lost. -/
structure KeepsBand : Prop where
  marginX : IsMargin nebula.margin.x
  marginY : IsMargin nebula.margin.y
  x : IsDefined nebula.center.x -> InClosedBand nebula.center.x view.width nebula.margin.x
  y : IsDefined nebula.center.y -> InClosedBand nebula.center.y view.height nebula.margin.y

/-- Some steps lead the center to a place that is finite with the margin added. -/
def StepIsFinite (steps : Float32) : Prop :=
  let next := Motion.drifted nebula.center nebula.velocity steps
  IsFinite (next.x + nebula.margin.x) ∧ IsFinite (next.y + nebula.margin.y)

end Bands

variable {nebula : Nebula Float32} {view : Viewport} {steps : Float32}

theorem KeepsBand.inBand_iff (keeps : nebula.KeepsBand view) :
    nebula.InBand view ↔ nebula.HasPlace ∧ nebula.IsOffTheEnd view := by
  constructor
  · rintro ⟨insideX, insideY⟩
    have x := Motion.isDefined_of_inMarginBand insideX
    have y := Motion.isDefined_of_inMarginBand insideY
    exact ⟨⟨x, y⟩, (keeps.x x).inMarginBand_iff.mp insideX, (keeps.y y).inMarginBand_iff.mp insideY⟩
  · rintro ⟨⟨x, y⟩, offX, offY⟩
    exact ⟨(keeps.x x).inMarginBand_iff.mpr offX, (keeps.y y).inMarginBand_iff.mpr offY⟩

theorem KeepsBand.inBand (keeps : nebula.KeepsBand view) (place : nebula.HasPlace)
    (inward : nebula.RoundsInward view) : nebula.InBand view :=
  ⟨⟨(keeps.x place.1).low, (keeps.x place.1).short inward.1⟩,
    (keeps.y place.2).low, (keeps.y place.2).short inward.2⟩

/-- Where a step ends depends on the margins only, not on the place before. -/
theorem keepsBand_advance (marginX : IsMargin nebula.margin.x) (marginY : IsMargin nebula.margin.y)
    (steps : Float32) (view : Viewport) :
    (nebula.advance steps ⟨view.width, view.height⟩).KeepsBand view := by
  have keeps {value extent margin : Float32} (isMargin : IsMargin margin) (bound : IsFinite extent)
      (positive : 0 < exact extent) (place : IsDefined (wrapWithMargin value extent margin)) :
      InClosedBand (wrapWithMargin value extent margin) extent margin := by
    refine Motion.inClosedBand_wrapWithMargin ?_ bound positive isMargin
    by_contra infinite
    exact Motion.not_isDefined_wrapWithMargin infinite extent place
  exact ⟨marginX, marginY, keeps marginX view.isFinite_width view.exact_width_pos,
    keeps marginY view.isFinite_height view.exact_height_pos⟩

theorem hasPlace_advance_iff (marginX : IsMargin nebula.margin.x)
    (marginY : IsMargin nebula.margin.y) :
    (nebula.advance steps ⟨view.width, view.height⟩).HasPlace ↔ nebula.StepIsFinite steps := by
  have defined_iff {value extent margin : Float32} (isMargin : IsMargin margin)
      (bound : IsFinite extent) (positive : 0 < exact extent) :
      IsDefined (wrapWithMargin value extent margin) ↔ IsFinite (value + margin) := by
    constructor
    · contrapose
      exact fun infinite => Motion.not_isDefined_wrapWithMargin infinite extent
    · exact fun finite =>
        (Motion.wrapWithMargin_spec finite bound positive isMargin.nonneg).1.isDefined
  exact and_congr (defined_iff marginX view.isFinite_width view.exact_width_pos)
    (defined_iff marginY view.isFinite_height view.exact_height_pos)

/-- A center that is led to a finite place had one. -/
theorem hasPlace_of_stepIsFinite (finite : nebula.StepIsFinite steps) : nebula.HasPlace := by
  have place {center drift margin : Float32} (finite : IsFinite (center + drift + margin)) :
      IsDefined center :=
    (isFinite_operands_of_add (isFinite_operands_of_add finite).1).1.isDefined
  exact ⟨place finite.1, place finite.2⟩

/-- A fraction of something that is not larger than a side stays below that
side, although it is rounded. -/
theorem inBand_fraction {t x side : Float32} (fraction : IsFraction t) (finite : IsFinite x)
    (nonneg : 0 ≤ exact x) (bound : IsFinite side) (long : 1 ≤ exact side)
    (small : exact x ≤ exact side) : Motion.InBand (t * x) side := by
  have product := rounds_mul fraction.finite finite
  have part : exact t * exact x ≤ exact x := mul_le_of_le_one_left nonneg fraction.lt_one.le
  have low : 0 ≤ exact (t * x) :=
    product.ge Exact.Representable.zero (mul_nonneg fraction.nonneg nonneg)
  rw [Motion.inBand_iff bound]
  refine ⟨product.defined, low, ?_⟩
  rcases small.lt_or_eq with less | equal
  · exact (product.le (isValue_exact x) part).trans_lt less
  · rcases fraction.exact_eq with ⟨count, few, t_eq⟩
    have factor : exact t = count / 2 ^ (Binary.format Float32).mantissaBits := by
      rw [t_eq, div_eq_mul_inv, ← zpow_natCast, ← zpow_neg]
      rfl
    have coarse : Exact.spacing (Binary.format Float32) (exact side) ≠
        (Binary.format Float32).minExponent := by
      have high := le_spacing_single (n := 0) (by rwa [pow_zero, div_one] : 1 / 2 ^ 0 ≤ exact side)
      have least : (Binary.format Float32).minExponent = -149 := rfl
      omega
    rw [product.exact_eq, factor, equal]
    exact Exact.rounded_mul_lt (isValue_exact side) (zero_lt_one.trans_le long) coarse few

theorem Drawn.keepsBand {settings : FieldSettings} (accepted : settings.Accepted)
    (drawn : nebula.Drawn settings view) : nebula.KeepsBand view ∧ nebula.HasPlace := by
  have margins := isMargin_marginOf nebula.blobs
  rw [← drawn.margin] at margins
  rcases drawn.x with ⟨t, horizontal, centerX⟩
  rcases drawn.y with ⟨s, vertical, centerY⟩
  have upper := accepted.nebula.spawnHeightFraction
  have height := rounds_mul view.isFinite_height upper.finite
  have tall := view.exact_height_pos.le
  have low : 0 ≤ exact (view.height * settings.nebula.spawnHeightFraction) :=
    height.ge Exact.Representable.zero (mul_nonneg tall upper.nonneg)
  have high : exact (view.height * settings.nebula.spawnHeightFraction) ≤ exact view.height :=
    height.le (isValue_exact view.height) (mul_le_of_le_one_right tall upper.le_one)
  have finite : IsFinite (view.height * settings.nebula.spawnHeightFraction) := by
    apply height.isFinite
    rw [abs_of_nonneg low]
    exact high.trans_lt ((le_abs_self _).trans_lt view.isFinite_height.abs_exact_lt)
  have insideX : Motion.InBand nebula.center.x view.width := centerX ▸
    inBand_fraction horizontal view.isFinite_width view.exact_width_pos.le view.isFinite_width
      view.one_le_exact_width le_rfl
  have insideY : Motion.InBand nebula.center.y view.height := centerY ▸
    inBand_fraction vertical finite low view.isFinite_height view.one_le_exact_height high
  refine ⟨⟨margins.1, margins.2, fun _ => ?_, fun _ => ?_⟩, insideX.isDefined, insideY.isDefined⟩
  · exact Motion.inClosedBand_of_inBand insideX view.isFinite_width margins.1
  · exact Motion.inClosedBand_of_inBand insideY view.isFinite_height margins.2

end Nebula

namespace ParticleField

/-- Every nebula lies in its bands. -/
def NebulaeInBand (field : ParticleField) : Prop :=
  forall nebula, nebula ∈ field.population.nebulae -> nebula.InBand field.viewport

/-- A tick at this time leads every nebula to a finite place. -/
def NebulaTickIsFinite (field : ParticleField) (timeMs : Float) : Prop :=
  Exists fun steps => field.stepsTo timeMs = .ok steps ∧
    forall nebula, nebula ∈ field.population.nebulae -> nebula.StepIsFinite steps

/-- Every nebula lies in its closed bands as far as it is not lost. -/
def NebulaeKeepBand (field : ParticleField) : Prop :=
  forall nebula, nebula ∈ field.population.nebulae -> nebula.KeepsBand field.viewport

def NebulaeHavePlaces (field : ParticleField) : Prop :=
  forall nebula, nebula ∈ field.population.nebulae -> nebula.HasPlace

variable {field : ParticleField}

theorem nebulaeKeepBand_moved (keeps : field.NebulaeKeepBand) (steps : Float32) (timeMs : Float) :
    (field.moved steps timeMs).NebulaeKeepBand := by
  intro nebula member
  rcases List.mem_map.mp member with ⟨before, inField, rfl⟩
  have kept := keeps before inField
  exact Nebula.keepsBand_advance kept.marginX kept.marginY steps field.viewport

theorem nebulaeHavePlaces_moved_iff (keeps : field.NebulaeKeepBand) (steps : Float32)
    (timeMs : Float) : (field.moved steps timeMs).NebulaeHavePlaces ↔
      forall nebula, nebula ∈ field.population.nebulae -> nebula.StepIsFinite steps := by
  change (forall nebula, nebula ∈ field.population.nebulae.map (·.advance steps field.extent) ->
    nebula.HasPlace) ↔ _
  rw [List.forall_mem_map]
  refine forall₂_congr fun nebula member => ?_
  have kept := keeps nebula member
  exact Nebula.hasPlace_advance_iff kept.marginX kept.marginY

theorem nebulaTickIsFinite_iff {timeMs : Float} {steps : Float32}
    (counted : field.stepsTo timeMs = .ok steps) : field.NebulaTickIsFinite timeMs ↔
      forall nebula, nebula ∈ field.population.nebulae -> nebula.StepIsFinite steps := by
  constructor
  · rintro ⟨others, countedToo, finite⟩
    cases counted.symm.trans countedToo
    exact finite
  · exact fun finite => ⟨steps, counted, finite⟩

/-- After every history the nebulae lie in their closed bands or are lost, and
none is lost exactly if no tick since the last layout lost one. -/
theorem run_nebulaeKeepBand {settings : FieldSettings} {empty : ParticleField}
    (configured : configure settings = .ok empty) (calls : List FieldCall) :
    Exists fun field => empty.run calls = .ok field ∧ field.settings = settings ∧
      field.NebulaeKeepBand ∧
      (field.NebulaeHavePlaces ↔ empty.SinceLayout calls NebulaTickIsFinite) := by
  rcases configure_eq_ok.mp configured with ⟨accepted, same⟩
  have begun : empty.NebulaeKeepBand ∧ empty.NebulaeHavePlaces := by
    subst same
    exact ⟨nofun, nofun⟩
  refine run_sinceLayout_iff configured begun ?_ ?_ calls
  · intro view population generator generation drawn
    have fresh := fun nebula (member : nebula ∈ population.nebulae) =>
      (drawn.nebulae.2 nebula member).keepsBand accepted
    exact ⟨fun nebula member => (fresh nebula member).1, fun nebula member => (fresh nebula member).2⟩
  · intro field timeMs steps counted keeps
    rw [nebulaeHavePlaces_moved_iff keeps, nebulaTickIsFinite_iff counted]
    refine ⟨nebulaeKeepBand_moved keeps steps timeMs, Iff.rfl, fun finite nebula member => ?_⟩
    exact Nebula.hasPlace_of_stepIsFinite (finite nebula member)

end ParticleField

/-! ## Gentle settings -/

/-- Settings under which no nebula is lost, however large the view is. -/
structure FieldSettings.HasGentleNebulae (settings : FieldSettings) : Prop where
  speedX : settings.nebula.speedX.IsModerate
  speedY : settings.nebula.speedY.IsModerate
  blobOffsetX : settings.nebula.blobOffsetX.IsModerate
  blobOffsetY : settings.nebula.blobOffsetY.IsModerate
  blobRadius : settings.nebula.blobRadius.IsModerate
  speedScale : exact settings.motion.speedScale ≤ 2 ^ 30
  maxFrameMs : exact settings.motion.maxFrameMs ≤ 2 ^ 30

namespace Nebula

/-- A nebula that moves with moderate speed and has moderate margins. -/
structure IsGentle (nebula : Nebula Float32) : Prop where
  speedX : IsModerateSpeed nebula.velocity.x
  speedY : IsModerateSpeed nebula.velocity.y
  marginX : exact nebula.margin.x ≤ 2 ^ 33
  marginY : exact nebula.margin.y ≤ 2 ^ 33

variable {nebula : Nebula Float32} {view : Viewport}

/-- The distance to the far edge of a blob with moderate offset and radius. -/
theorem exact_reach_le {offset radius : Float32} (first : IsFinite offset ∧ |exact offset| ≤ 2 ^ 32)
    (second : IsFinite radius ∧ |exact radius| ≤ 2 ^ 32) : exact (offset.abs + radius) ≤ 2 ^ 33 := by
  have sum := rounds_add (isFinite_abs first.1) second.1
  rw [exact_abs first.1] at sum
  apply sum.le (isValue_two_pow (by decide))
  calc |exact offset| + exact radius ≤ 2 ^ 32 + 2 ^ 32 :=
        add_le_add first.2 ((le_abs_self _).trans second.2)
    _ = 2 ^ 33 := by norm_num

theorem Drawn.isGentle {settings : FieldSettings} (accepted : settings.Accepted)
    (gentle : settings.HasGentleNebulae) (drawn : nebula.Drawn settings view) : nebula.IsGentle := by
  have ordered := accepted.nebula
  have margins : exact (marginOf nebula.blobs).x ≤ 2 ^ 33 ∧ exact (marginOf nebula.blobs).y ≤ 2 ^ 33 := by
    apply exact_marginOf_le (by positivity)
    intro blob member
    have shape := drawn.blobs blob member
    have radius := gentle.blobRadius.point ordered.blobRadius.toIsOrdered shape.radius
    exact ⟨exact_reach_le (gentle.blobOffsetX.point ordered.blobOffsetX shape.x) radius,
      exact_reach_le (gentle.blobOffsetY.point ordered.blobOffsetY shape.y) radius⟩
  rw [← drawn.margin] at margins
  exact ⟨gentle.speedX.point ordered.speedX drawn.velocityX,
    gentle.speedY.point ordered.speedY drawn.velocityY, margins.1, margins.2⟩

/-- Neither the drift nor the margin of a gentle nebula is half of the last step
before the end. -/
theorem IsGentle.stepIsFinite {steps : Float32} (gentle : nebula.IsGentle)
    (keeps : nebula.KeepsBand view) (place : nebula.HasPlace) (few : IsFinite steps)
    (fewer : |exact steps| ≤ 2 ^ 60) : nebula.StepIsFinite steps := by
  have finite {center speed margin extent : Float32} (inside : InClosedBand center extent margin)
      (isMargin : IsMargin margin) (slow : IsModerateSpeed speed) (small : exact margin ≤ 2 ^ 33) :
      IsFinite (center + speed * steps + margin) := by
    have size : |exact margin| ≤ 2 ^ 33 := by rwa [abs_of_nonneg isMargin.nonneg]
    have number : IsFinite margin := by
      rw [isFinite_iff, limit_single]
      exact ⟨isMargin.defined, size.trans_lt (pow_lt_pow_right₀ one_lt_two (by decide))⟩
    apply isFinite_add (isFinite_moved inside.isFinite slow few fewer) number
    refine size.trans_lt ?_
    change (2 : ℚ) ^ 33 < 2 ^ (104 : ℤ) / 2
    norm_num
  exact ⟨finite (keeps.x place.1) keeps.marginX gentle.speedX gentle.marginX,
    finite (keeps.y place.2) keeps.marginY gentle.speedY gentle.marginY⟩

end Nebula

namespace ParticleField

variable {field : ParticleField}

/-- Every nebula lies in its closed bands and moves gently. -/
def NebulaeAreGentle (field : ParticleField) : Prop :=
  forall nebula, nebula ∈ field.population.nebulae ->
    nebula.KeepsBand field.viewport ∧ nebula.HasPlace ∧ nebula.IsGentle

theorem nebulaeAreGentle_moved (accepted : field.settings.Accepted)
    (moderate : field.settings.HasGentleNebulae) (gentle : field.NebulaeAreGentle) {timeMs : Float}
    {steps : Float32} (counted : field.stepsTo timeMs = .ok steps) :
    (field.moved steps timeMs).NebulaeAreGentle := by
  rcases Motion.frameSteps_within (by decide) accepted.maxFrameMs accepted.speedScale
    moderate.maxFrameMs moderate.speedScale counted with ⟨finite, few⟩
  intro nebula member
  rcases List.mem_map.mp member with ⟨before, inField, rfl⟩
  rcases gentle before inField with ⟨keeps, place, slow⟩
  have step := slow.stepIsFinite keeps place finite few
  exact ⟨Nebula.keepsBand_advance keeps.marginX keeps.marginY steps field.viewport,
    (Nebula.hasPlace_advance_iff keeps.marginX keeps.marginY).mpr step,
    slow.speedX, slow.speedY, slow.marginX, slow.marginY⟩

theorem run_nebulaeAreGentle {settings : FieldSettings} {empty : ParticleField}
    (configured : configure settings = .ok empty) (gentle : settings.HasGentleNebulae)
    (calls : List FieldCall) : Exists fun field => empty.run calls = .ok field ∧
      field.settings = settings ∧ field.NebulaeAreGentle := by
  rcases configure_eq_ok.mp configured with ⟨accepted, rfl⟩
  refine run_induction configured (motive := fun _ field => field.NebulaeAreGentle) ?_ ?_ ?_ calls
  · intro nebula member
    cases member
  · intro _ view population generator generation drawn nebula member
    have shape := drawn.nebulae.2 nebula member
    rcases shape.keepsBand accepted with ⟨keeps, place⟩
    exact ⟨keeps, place, shape.isGentle accepted gentle⟩
  · rintro _ field timeMs steps _ rfl counted kept
    exact nebulaeAreGentle_moved accepted gentle kept counted

/-- After every history the nebulae lie in their bands, exactly if no tick since
the last layout has led one to a place that is not finite and none stands on the
far end of a band.  Under gentle settings no nebula is ever lost, and those whose
bands are rounded inward never stand on a far end. -/
theorem run_nebulaeInBand_iff {settings : FieldSettings} {empty : ParticleField}
    (configured : configure settings = .ok empty) (calls : List FieldCall) :
    Exists fun field => empty.run calls = .ok field ∧
      (field.NebulaeInBand ↔ empty.SinceLayout calls NebulaTickIsFinite ∧
        forall nebula, nebula ∈ field.population.nebulae -> nebula.IsOffTheEnd field.viewport) ∧
      (settings.HasGentleNebulae -> forall nebula, nebula ∈ field.population.nebulae ->
        nebula.RoundsInward field.viewport -> nebula.InBand field.viewport) := by
  rcases run_nebulaeKeepBand configured calls with ⟨field, reached, -, keeps, places⟩
  refine ⟨field, reached, ?_, fun gentle nebula member inward => ?_⟩
  · rw [← places]
    constructor
    · intro inBand
      exact ⟨fun nebula member => ((keeps nebula member).inBand_iff.mp (inBand nebula member)).1,
        fun nebula member => ((keeps nebula member).inBand_iff.mp (inBand nebula member)).2⟩
    · rintro ⟨place, off⟩ nebula member
      exact (keeps nebula member).inBand_iff.mpr ⟨place nebula member, off nebula member⟩
  · rcases run_nebulaeAreGentle configured gentle calls with ⟨same, reachedSame, -, kept⟩
    cases reached.symm.trans reachedSame
    exact (keeps nebula member).inBand (kept nebula member).2.1 inward

/-- Settings with one nebula that has one blob in its center, and no stars. -/
def oneBlobSettings (radius speed : Float32) : FieldSettings where
  layers := []
  nebula := {
    count := 1
    blobs := ⟨1, 1⟩
    blobOffsetX := ⟨0, 0⟩
    blobOffsetY := ⟨0, 0⟩
    blobRadius := ⟨radius, radius⟩
    speedX := ⟨speed, speed⟩
    speedY := ⟨0, 0⟩ }

/-- A margin of 100 around a view of 640 to 480 pixels needs no rounding. -/
theorem run_nebulaeInBand_oneBlob :
    configure (oneBlobSettings 100 7) = .ok (blank (oneBlobSettings 100 7)) ∧
      (oneBlobSettings 100 7).HasGentleNebulae ∧
      Exists fun field => (blank (oneBlobSettings 100 7)).run
          [.resize (.ofReadings 640 480 1), .tick 0, .tick 16] = .ok field ∧
        field.NebulaeInBand := by
  have configured : configure (oneBlobSettings 100 7) = .ok (blank (oneBlobSettings 100 7)) :=
    configure_eq_ok.mpr ⟨(FieldSettings.validate_eq_ok _).mp rfl, rfl⟩
  have default := FieldSettings.isModerate_default
  have gentle : (oneBlobSettings 100 7).HasGentleNebulae := by
    constructor
    case speedScale => exact default.speedScale
    case maxFrameMs => exact default.maxFrameMs
    all_goals exact Range.isModerate_of_contains (by decide) (by decide)
  have placed : ((blank (oneBlobSettings 100 7)).run
      [.resize (.ofReadings 640 480 1), .tick 0, .tick 16]).toOption.map (fun field =>
        (decide (field.viewport.width = 640 ∧ field.viewport.height = 480),
          field.population.nebulae.all fun nebula => nebula.margin = ⟨100, 100⟩)) =
      some (true, true) := by
    decide +kernel
  rcases run_nebulaeInBand_iff configured [.resize (.ofReadings 640 480 1), .tick 0, .tick 16] with
    ⟨field, reached, -, inBand⟩
  rw [reached] at placed
  rcases Prod.mk.inj (Option.some.inj placed) with ⟨view, margins⟩
  rw [decide_eq_true_iff] at view
  refine ⟨configured, gentle, field, reached, fun nebula member => inBand gentle nebula member ?_⟩
  have margin : nebula.margin = ⟨100, 100⟩ :=
    of_decide_eq_true (List.all_eq_true.mp margins nebula member)
  have hundred : exact (100 : Float32) = (100 : ℕ) := by
    rw [exact_of_unpack (u := .finite .positive 13107200 (-17) (by decide)) rfl]
    norm_num [Exact.value, Exact.signed]
  have wide : exact (640 : Float32) = (640 : ℕ) := by
    rw [exact_of_unpack (u := .finite .positive 10485760 (-14) (by decide)) rfl]
    norm_num [Exact.value, Exact.signed]
  have high : exact (480 : Float32) = (480 : ℕ) := by
    rw [exact_of_unpack (u := .finite .positive 15728640 (-15) (by decide)) rfl]
    norm_num [Exact.value, Exact.signed]
  unfold Nebula.RoundsInward
  rw [margin, view.1, view.2]
  exact ⟨Motion.roundsInward_of_whole rfl rfl wide hundred (by decide),
    Motion.roundsInward_of_whole rfl rfl high hundred (by decide)⟩

/-- A margin of 100.2 around a view of 1280 to 720 pixels is rounded outward.
So there are accepted settings under which a nebula is moved to the far end of
its band, by finite numbers all along. -/
theorem exists_nebula_on_farEnd : Exists fun empty => Exists fun field =>
    configure (oneBlobSettings 100.2 542.1876) = .ok empty ∧
      empty.run [.resize (.ofReadings 1280 720 1), .tick 0, .tick 16.666666666666668] = .ok field ∧
      (forall nebula, nebula ∈ field.population.nebulae -> nebula.HasPlace) ∧
      ¬field.NebulaeInBand := by
  have lost : ((configure (oneBlobSettings 100.2 542.1876)).toOption.bind fun empty =>
      (empty.run [.resize (.ofReadings 1280 720 1), .tick 0, .tick 16.666666666666668]).toOption.map
        fun field =>
          (field.population.nebulae.all fun nebula =>
            !nebula.center.x.isNaN && !nebula.center.y.isNaN,
          field.population.nebulae.all fun nebula =>
            nebula.center.x < field.viewport.width + nebula.margin.x)) = some (true, false) := by
    decide +kernel
  rcases Option.bind_eq_some_iff.mp lost with ⟨empty, configured, ran⟩
  rcases Option.map_eq_some_iff.mp ran with ⟨field, reached, found⟩
  rcases Prod.mk.inj found with ⟨places, inside⟩
  refine ⟨empty, field, Outcome.toOption_eq_some.mp configured, Outcome.toOption_eq_some.mp reached,
    fun nebula member => ?_, fun inBand => ?_⟩
  · have place := List.all_eq_true.mp places nebula member
    rw [Bool.and_eq_true, Bool.not_eq_true', Bool.not_eq_true'] at place
    exact place
  · have all := List.all_eq_true.mpr fun nebula member =>
      decide_eq_true (inBand nebula member).1.2
    rw [all] at inside
    cases inside

end ParticleField

end Starfield
