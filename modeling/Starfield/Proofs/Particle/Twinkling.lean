import Starfield.Proofs.Number.Finite
import Starfield.Proofs.Particle.InView

namespace Starfield

open Motion (InBand)

/-!
# Opacities in their band

The opacity of a star swings with the sine of a phase and is moved into a band
behind that.  Moving mends every number but an undefined one, and the sine is
undefined where the phase is not finite.  So an opacity leaves its band in two
cases only: the time of the frame counts more periods than there are numbers, or
the star has lost its place.
-/

namespace Double

/-- The sine of a finite angle lies in `[-1, 1]`. -/
theorem sine_of_isFinite {x : Float} (finite : IsFinite x) :
    IsFinite (sine x) ∧ |exact (sine x)| ≤ 1 := by
  have low : exact (-1 : Float) = -1 := by
    rw [exact_of_unpack (u := .finite .negative 4503599627370496 (-52) (by decide)) rfl]
    norm_num [Exact.value, Exact.signed]
  have high : exact (1 : Float) = 1 := by
    rw [exact_of_unpack (u := .finite .positive 4503599627370496 (-52) (by decide)) rfl]
    norm_num [Exact.value, Exact.signed]
  have inside {y : Float} (defined : IsDefined y) (small : |exact y| ≤ 1) :
      IsFinite y ∧ |exact y| ≤ 1 := by
    refine ⟨(isFinite_iff y).mpr ⟨defined, small.trans_lt ?_⟩, small⟩
    rw [limit_double]
    exact one_lt_pow₀ one_lt_two (by decide)
  unfold sine
  rw [if_pos ((isFinite_double x).mpr finite)]
  dsimp only
  cases undefined : x.sin.isNaN with
  | true =>
      rw [if_pos rfl]
      exact inside rfl (by rw [exact_double_zero, abs_zero]; exact zero_le_one)
  | false =>
      rw [if_neg Bool.false_ne_true]
      have clamped := clamp_spec (show IsDefined (-1 : Float) from rfl)
        (show IsDefined (1 : Float) from rfl) (show IsDefined x.sin from undefined)
        (by rw [low, high]; norm_num)
      rw [low, high] at clamped
      refine inside clamped.1 (clamped.2 ▸ abs_le.mpr ⟨le_max_left _ _, ?_⟩)
      exact max_le (by norm_num) (min_le_left _ _)

theorem sine_of_not_isFinite {x : Float} (infinite : ¬IsFinite x) : sine x = Binary.undefined :=
  if_neg infinite

end Double

namespace Star

variable {star : Star Float32} {twinkle : Twinkle} {timeMs : Float}

/-- The angle whose sine moves the opacity of a star. -/
def phase (star : Star Float32) (twinkle : Twinkle) (timeMs : Float) : Float :=
  timeMs * widen twinkle.frequency + widen star.position.x + widen star.position.y

/-- Places are too small to spoil a phase, and undefined ones spoil it. -/
theorem isFinite_phase_iff : IsFinite (star.phase twinkle timeMs) ↔
    IsFinite (timeMs * widen twinkle.frequency) ∧
      IsFinite star.position.x ∧ IsFinite star.position.y := by
  have small {x : Float32} (finite : IsFinite x) :
      |exact (widen x)| < Exact.lastStep (Binary.format Float) / 2 := by
    rw [exact_widen finite]
    refine finite.abs_exact_lt.trans ?_
    change (2 : ℚ) ^ 128 < 2 ^ 971 / 2
    rw [lt_div_iff₀ two_pos, ← pow_succ]
    exact pow_lt_pow_right₀ one_lt_two (by decide)
  unfold phase
  constructor
  · intro finite
    have outer := isFinite_operands_of_add finite
    have inner := isFinite_operands_of_add outer.1
    exact ⟨inner.1, (isFinite_widen_iff _).mp inner.2, (isFinite_widen_iff _).mp outer.2⟩
  · rintro ⟨turned, x, y⟩
    exact isFinite_add (isFinite_add turned (isFinite_widen x) (small x)) (isFinite_widen y) (small y)

/-- The swing of an opacity is never undefined for a finite phase, and nothing
else for any other. -/
theorem isDefined_twinkleAlpha_iff (base : IsFinite star.baseAlpha)
    (amplitude : IsNonNegative twinkle.amplitude) :
    IsDefined (star.twinkleAlpha twinkle timeMs) ↔ IsFinite (star.phase twinkle timeMs) := by
  change IsDefined (star.baseAlpha +
    twinkle.amplitude * narrow (Double.sine (star.phase twinkle timeMs))) ↔ _
  constructor
  · contrapose
    intro infinite
    rw [Double.sine_of_not_isFinite infinite]
    refine not_isDefined_add_right _ (not_isDefined_mul_right _ ?_)
    exact not_isDefined_narrow not_isDefined_undefined
  · intro finite
    rcases Double.sine_of_isFinite finite with ⟨sine, unit⟩
    have narrowed := rounds_narrow sine
    have small : |exact (narrow (Double.sine (star.phase twinkle timeMs)))| ≤ 1 := by
      have one : IsValue Float32 1 := isValue_two_pow (n := 0) (by decide)
      exact narrowed.within one unit
    have single := narrowed.isFinite (small.trans_lt (by rw [limit_single]; norm_num))
    have swing := rounds_mul amplitude.finite single
    have bounded : |exact twinkle.amplitude * exact (narrow (Double.sine (star.phase twinkle timeMs)))| ≤
        exact twinkle.amplitude := by
      rw [abs_mul, abs_of_nonneg amplitude.nonneg]
      exact mul_le_of_le_one_right amplitude.nonneg small
    have within := swing.within (isValue_exact _) bounded
    have top := (le_abs_self _).trans_lt amplitude.finite.abs_exact_lt
    exact (rounds_add base (swing.isFinite (within.trans_lt top))).defined

end Star

/-- A product with a frequency is finite for every time if the frequency is at
most one, and for every frequency if the time is not too far off. -/
theorem isFinite_mul_frequency {timeMs : Float} {frequency : Float32} (finite : IsFinite timeMs)
    (accepted : IsNonNegative frequency)
    (slow : exact frequency ≤ 1 ∨ |exact timeMs| ≤ 2 ^ 895) :
    IsFinite (timeMs * widen frequency) := by
  have product := rounds_mul finite (isFinite_widen accepted.finite)
  rw [exact_widen accepted.finite] at product
  have size : |exact timeMs * exact frequency| = |exact timeMs| * exact frequency := by
    rw [abs_mul, abs_of_nonneg accepted.nonneg]
  rcases slow with slow | early
  · have bounded := product.within (isValue_exact timeMs).abs
      (size.trans_le (mul_le_of_le_one_right (abs_nonneg _) slow))
    exact product.isFinite (bounded.trans_lt finite.abs_exact_lt)
  · have value : IsValue Float (2 ^ 1023) := by
      rw [← zpow_natCast]
      refine Exact.representable_two_zpow (by decide) ?_
      rw [zpow_natCast]
      exact pow_le_pow_right₀ one_le_two (by decide)
    have bounded := product.within value (by
      have nonneg := accepted.nonneg
      have small := ((le_abs_self _).trans_lt accepted.finite.abs_exact_lt).le
      rw [limit_single] at small
      calc |exact timeMs * exact frequency| = |exact timeMs| * exact frequency := size
        _ ≤ 2 ^ 895 * 2 ^ 128 := by gcongr
        _ = 2 ^ 1023 := by rw [← pow_add])
    exact product.isFinite (bounded.trans_lt (pow_lt_pow_right₀ one_lt_two (by decide)))

namespace Range.IsUnit

variable {band : Range}

/-- What was moved into a band of opacities is not moved by `[0, 1]` again, be
it a number or not. -/
theorem clampUnit_clamp (unit : band.IsUnit) {alpha moved : Float32}
    (clamped : band.clamp alpha = .ok moved) : Single.clampUnit moved = moved := by
  have low := unit.min_finite.isDefined
  have high := unit.max_finite.isDefined
  unfold clamp clampOrdered at clamped
  rw [if_pos ((le_iff _ _).mpr ⟨low, high, unit.le⟩)] at clamped
  cases clamped
  by_cases defined : IsDefined alpha
  · rcases Starfield.clamp_spec low high defined unit.le with ⟨stays, place⟩
    refine Starfield.IsUnit.clampUnit_eq (.of_bounds stays ?_ ?_)
    · exact place ▸ unit.nonneg.trans (le_max_left _ _)
    · exact place ▸ (max_le unit.le (min_le_left _ _)).trans unit.le_one
  · rw [clamp_of_not_isDefined defined]
    exact clamp_of_not_isDefined defined 0 1

/-- A number that is moved into a band of opacities and from there into
`[0, 1]` lies in the band unless it is undefined. -/
theorem clamp_spec (unit : band.IsUnit) (alpha : Float32) :
    Exists fun shown => band.clamp alpha = .ok shown ∧
      (band.contains (Single.clampUnit shown) = true ↔ IsDefined alpha) := by
  have low := unit.min_finite.isDefined
  have high := unit.max_finite.isDefined
  have clamped : band.clamp alpha = .ok (Starfield.clamp band.min band.max alpha) :=
    if_pos ((le_iff _ _).mpr ⟨low, high, unit.le⟩)
  refine ⟨_, clamped, ?_⟩
  rw [unit.clampUnit_clamp clamped]
  unfold contains
  rw [Bool.and_eq_true, decide_eq_true_iff, decide_eq_true_iff, le_iff band.min, le_iff _ band.max]
  by_cases defined : IsDefined alpha
  · rcases Starfield.clamp_spec low high defined unit.le with ⟨moved, place⟩
    have above : exact band.min ≤ exact (Starfield.clamp band.min band.max alpha) :=
      place ▸ le_max_left _ _
    have below : exact (Starfield.clamp band.min band.max alpha) ≤ exact band.max :=
      place ▸ max_le unit.le (min_le_left _ _)
    exact iff_of_true ⟨⟨low, moved, above⟩, moved, high, below⟩ defined
  · rw [clamp_of_not_isDefined defined]
    exact iff_of_false (fun inside => defined inside.1.2.1) defined

end Range.IsUnit

/-- Every star of a frame is shown with an opacity of the band. -/
def Frame.StarsInBand (frame : Frame) (band : Range) : Prop :=
  forall disc, disc ∈ frame.stars -> band.contains disc.color.alpha = true

namespace ParticleField

/-- Every star lies in the view or is lost, and its own opacity is a number. -/
structure StarsAreSound (field : ParticleField) : Prop where
  places : field.StarsInViewOrLost
  baseAlpha : forall star, star ∈ field.population.stars -> IsFinite star.baseAlpha

/-- The time counts a finite part of the periods, and the star is in view. -/
def HasPhase (field : ParticleField) (timeMs : Float) (star : Star Float32) : Prop :=
  IsFinite (timeMs * widen field.settings.twinkle.frequency) ∧
    field.viewport.contains star.position = true

/-- A frame shows the stars of a field one by one, with an opacity of the band
exactly for those that have a phase. -/
def ShowsStars (field : ParticleField) (timeMs : Float) (frame : Frame) : Prop :=
  List.Forall₂ (fun star disc => field.settings.alphaClamp.contains disc.color.alpha = true ↔
    field.HasPhase timeMs star) field.population.stars frame.stars

variable {field : ParticleField} {timeMs : Float} {frame : Frame}

theorem isFinite_place_iff {x extent : Float32} (bound : IsFinite extent)
    (place : InBandOrLost x extent) : IsFinite x ↔ InBand x extent := by
  refine ⟨fun finite => ?_, fun inside => inside.isFinite bound⟩
  exact place.resolve_right fun lost => lost finite.isDefined

theorem isFinite_phase_iff_hasPhase {star : Star Float32}
    (place : InBandOrLost star.position.x field.viewport.width ∧
      InBandOrLost star.position.y field.viewport.height) :
    IsFinite (star.phase field.settings.twinkle timeMs) ↔ field.HasPhase timeMs star := by
  rw [Star.isFinite_phase_iff, HasPhase, Viewport.contains_iff,
    isFinite_place_iff field.viewport.isFinite_width place.1,
    isFinite_place_iff field.viewport.isFinite_height place.2]

theorem showsStars_describe (accepted : field.settings.Accepted) (sound : field.StarsAreSound)
    (described : field.describe timeMs = .ok frame) : field.ShowsStars timeMs frame := by
  rcases Outcome.bind_eq_ok.mp described with ⟨discs, drawn, made⟩
  cases made
  have listed := (List.forall₂_and_left _ _).mpr
    ⟨fun star (member : star ∈ field.population.stars) => member, Outcome.forall₂_of_mapM_eq_ok drawn⟩
  refine listed.imp ?_
  rintro star disc ⟨member, drawnDisc⟩
  rcases Outcome.bind_eq_ok.mp drawnDisc with ⟨alpha, shown, made⟩
  cases made
  rcases accepted.alphaClamp.clamp_spec (star.twinkleAlpha field.settings.twinkle timeMs) with
    ⟨same, clamped, inBand⟩
  cases shown.symm.trans clamped
  rw [← isFinite_phase_iff_hasPhase (sound.places star member),
    ← Star.isDefined_twinkleAlpha_iff (sound.baseAlpha star member) accepted.amplitude]
  exact inBand

theorem starsAreSound_moved (sound : field.StarsAreSound) (steps : Float32) (timeMs : Float) :
    (field.moved steps timeMs).StarsAreSound where
  places := starsInViewOrLost_moved steps timeMs
  baseAlpha star member := by
    rcases List.mem_map.mp member with ⟨before, inField, rfl⟩
    exact sound.baseAlpha before inField

/-- A layout gives every star a place in the view and an opacity of its own. -/
theorem starsAreSound_drawn {settings : FieldSettings} (accepted : settings.Accepted)
    {view : Viewport} {population : Population Float Float32}
    (drawn : population.Drawn settings view) (generator : Generator) (generation : ℕ) :
    StarsAreSound ⟨settings, generator, view, population, generation⟩ where
  places := (starsInView_drawn drawn generator generation).orLost
  baseAlpha star member := by
    rcases drawn.stars.drawn member with ⟨layer, index, -, shape⟩
    have unit := accepted.starAlpha
    have moderate : settings.starAlpha.IsModerate := by
      have small {x : ℚ} (low : 0 ≤ x) (high : x ≤ 1) : |x| ≤ 2 ^ 30 :=
        (abs_of_nonneg low).trans_le (high.trans (one_le_pow₀ one_le_two))
      exact ⟨small unit.nonneg (unit.le.trans unit.le_one),
        small (unit.nonneg.trans unit.le) unit.le_one⟩
    exact (moderate.point unit.toIsOrdered shape.baseAlpha).1

theorem run_starsAreSound {settings : FieldSettings} {empty : ParticleField}
    (configured : configure settings = .ok empty) (calls : List FieldCall) :
    Exists fun field => empty.run calls = .ok field ∧ field.settings = settings ∧
      field.StarsAreSound := by
  rcases configure_eq_ok.mp configured with ⟨accepted, rfl⟩
  refine run_induction configured (motive := fun _ field => field.StarsAreSound) ⟨nofun, nofun⟩ ?_ ?_
    calls
  · intro _ view population generator generation drawn
    exact starsAreSound_drawn accepted drawn generator generation
  · intro _ field timeMs steps _ _ _ sound
    exact starsAreSound_moved sound steps timeMs

/-- Where every star has a phase, every star is shown in the band. -/
theorem ShowsStars.starsInBand (shows : field.ShowsStars timeMs frame)
    (phases : forall star, star ∈ field.population.stars -> field.HasPhase timeMs star) :
    frame.StarsInBand field.settings.alphaClamp := by
  have listed := (List.forall₂_and_left _ _).mpr ⟨phases, shows⟩
  have inBand : List.Forall₂ (fun disc (_ : Star Float32) =>
      field.settings.alphaClamp.contains disc.color.alpha = true ∧ True)
      frame.stars field.population.stars :=
    .flip (listed.imp fun star disc ⟨phase, iff⟩ => ⟨iff.mpr phase, trivial⟩)
  exact ((List.forall₂_and_left _ _).mp inBand).1

theorem starsAreTame_blank (settings : FieldSettings) : (blank settings).StarsAreTame := by
  intro star member
  cases member

/-- After every history, a frame shows exactly those stars with an opacity of
the band whose phase is finite and who have not lost their place.  Under
moderate settings that is all of them, for every time if no star twinkles faster
than once a millisecond, and else for every time but the far-off ones. -/
theorem run_opacities_inBand_iff {settings : FieldSettings} {empty : ParticleField}
    (configured : configure settings = .ok empty) (calls : List FieldCall) :
    Exists fun field => empty.run calls = .ok field ∧ forall timeMs,
      Exists fun shown => Exists fun frame => Exists fun next =>
        field.describe timeMs = .ok shown ∧ field.tick timeMs = .ok (frame, next) ∧
        field.ShowsStars timeMs shown ∧ next.ShowsStars timeMs frame ∧
        (settings.IsModerate -> IsFinite timeMs ->
          exact settings.twinkle.frequency ≤ 1 ∨ |exact timeMs| ≤ 2 ^ 895 ->
          shown.StarsInBand settings.alphaClamp ∧ frame.StarsInBand settings.alphaClamp) := by
  rcases run_starsAreSound configured calls with ⟨field, reached, rfl, sound⟩
  rcases configure_eq_ok.mp configured with ⟨accepted, rfl⟩
  refine ⟨field, reached, fun timeMs => ?_⟩
  rcases describe_ok accepted timeMs with ⟨shown, described⟩
  rcases tick_spec accepted timeMs with ⟨steps, frame, counted, describedNext, ticked⟩
  have shows := showsStars_describe accepted sound described
  have kept : (field.moved steps timeMs).settings.Accepted := accepted
  have showsNext := showsStars_describe kept (starsAreSound_moved sound steps timeMs) describedNext
  refine ⟨shown, frame, _, described, ticked, shows, showsNext, fun moderate finite slow => ?_⟩
  have turned := isFinite_mul_frequency finite accepted.frequency slow
  have startAccepted : (blank field.settings).settings.Accepted := accepted
  have tame := run_starsAreTame startAccepted moderate (starsAreTame_blank field.settings) reached
  have tameNext := starsAreTame_tick accepted moderate tame counted
  exact ⟨shows.starsInBand fun star member => ⟨turned, (tame star member).1⟩,
    showsNext.starsInBand fun star member => ⟨turned, (tameNext star member).1⟩⟩

/-- The settings that hold when nothing is set show every star in the band, a
year after the start too. -/
theorem run_opacities_inBand_default :
    configure {} = .ok (blank {}) ∧ FieldSettings.IsModerate {} ∧ IsFinite (31536000000 : Float) ∧
      Exists fun field => run (blank {}) [.resize .smallest, .tick 0] = .ok field ∧
        Exists fun shown => field.describe 31536000000 = .ok shown ∧
          shown.StarsInBand (FieldSettings.alphaClamp {}) := by
  have configured : configure {} = .ok (blank {}) :=
    configure_eq_ok.mpr ⟨FieldSettings.accepted_default, rfl⟩
  have slow : exact (FieldSettings.twinkle {}).frequency ≤ 1 := by
    have below : (FieldSettings.twinkle {}).frequency ≤ 1 := by decide
    rw [le_iff, exact_single_one] at below
    exact below.2.2
  rcases run_opacities_inBand_iff configured [.resize .smallest, .tick 0] with
    ⟨field, reached, opacities⟩
  rcases opacities 31536000000 with ⟨shown, frame, next, described, -, -, -, inBand⟩
  exact ⟨configured, FieldSettings.isModerate_default, rfl, field, reached, shown, described,
    (inBand FieldSettings.isModerate_default rfl (Or.inl slow)).1⟩

/-- Accepted settings whose stars twinkle faster than any time can tell. -/
def flickeringSettings : FieldSettings where
  layers := [⟨1, ⟨1, 1⟩⟩]
  twinkle := { frequency := 3e38 }
  nebula := { count := 0 }

/-- So there are accepted settings under which a star is shown without an
opacity, although it is in view and the time is finite. -/
theorem exists_star_without_opacity : Exists fun empty => Exists fun field => Exists fun frame =>
    configure flickeringSettings = .ok empty ∧ empty.run [.resize .smallest] = .ok field ∧
      field.StarsInView ∧ IsFinite (1e300 : Float) ∧ field.describe 1e300 = .ok frame ∧
      ¬frame.StarsInBand flickeringSettings.alphaClamp := by
  have lost : ((configure flickeringSettings).toOption.bind fun empty =>
      (empty.run [.resize .smallest]).toOption.bind fun field =>
        (field.describe 1e300).toOption.map fun frame =>
          (field.population.stars.all (field.viewport.contains ·.position),
            Float.isFinite 1e300,
            frame.stars.all (flickeringSettings.alphaClamp.contains ·.color.alpha))) =
      some (true, true, false) := by
    decide +kernel
  rcases Option.bind_eq_some_iff.mp lost with ⟨empty, configured, ran⟩
  rcases Option.bind_eq_some_iff.mp ran with ⟨field, reached, seen⟩
  rcases Option.map_eq_some_iff.mp seen with ⟨frame, described, found⟩
  rcases Prod.mk.inj found with ⟨inView, others⟩
  rcases Prod.mk.inj others with ⟨finite, outside⟩
  refine ⟨empty, field, frame, Outcome.toOption_eq_some.mp configured,
    Outcome.toOption_eq_some.mp reached, List.all_eq_true.mp inView,
    (isFinite_double _).mp finite, Outcome.toOption_eq_some.mp described, fun inBand => ?_⟩
  rw [List.all_eq_true.mpr inBand] at outside
  cases outside

end ParticleField

end Starfield
