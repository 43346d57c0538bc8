import Starfield.Proofs.Particle.NebulaBand
import Starfield.Proofs.Particle.Standstill
import Starfield.Proofs.Particle.Twinkling

namespace Starfield

open Motion (InBand IsSettled)

/-!
# Ticks without time

The first tick after a layout and every tick that is not later than the one
before have no time to advance.  A star in view stays where it is then.  A
nebula does so only if its center is settled; otherwise it is moved, by the
rounding of its way up and down the margin or by a whole period.  Where
everything stays, the frame of the tick is the frame of the field before it,
but for the signs of zeros.
-/

/-- The nebula comes back to its center on both axes. -/
def Nebula.IsSettled (nebula : Nebula Float32) (view : Viewport) : Prop :=
  Motion.IsSettled nebula.center.x view.width nebula.margin.x ∧
    Motion.IsSettled nebula.center.y view.height nebula.margin.y

instance (nebula : Nebula Float32) (view : Viewport) : Decidable (nebula.IsSettled view) :=
  inferInstanceAs (Decidable (_ ∧ _))

/-- A star before and after such a tick. -/
structure Star.Stood (view : Viewport) (star later : Star Float32) : Prop where
  kept : later = { star with position := later.position }
  stays_iff : (later.position == star.position) = true ↔ view.contains star.position = true

/-- A nebula before and after such a tick. -/
structure Nebula.Stood (view : Viewport) (nebula later : Nebula Float32) : Prop where
  kept : later = { nebula with center := later.center }
  stays_iff : (later.center == nebula.center) = true ↔ nebula.IsSettled view

/-! ## Frames that look the same -/

/-- The points are the same but possibly for the sign of a zero. -/
def Point.IsSame (p q : Point Float32) : Prop :=
  SameNumber p.x q.x ∧ SameNumber p.y q.y

/-- The phase of a star at a place. -/
def Twinkle.phaseAt (twinkle : Twinkle) (timeMs : Float) (place : Point Float32) : Float :=
  timeMs * widen twinkle.frequency + widen place.x + widen place.y

structure GradientDisc.IsSame (disc other : GradientDisc) : Prop where
  center : disc.center.IsSame other.center
  radius : disc.radius = other.radius
  color : disc.color = other.color

/-- The discs are the same.  Nothing is known of the sines of the two zeros, so
the opacity may differ where the phase is zero. -/
structure StarDisc.IsSame (twinkle : Twinkle) (timeMs : Float) (disc other : StarDisc) : Prop where
  center : disc.center.IsSame other.center
  radius : disc.radius = other.radius
  glow : disc.glow = other.glow
  color : disc.color.rgb = other.color.rgb
  alpha : disc.color.alpha = other.color.alpha ∨
    IsZero (twinkle.phaseAt timeMs disc.center) ∧ IsZero (twinkle.phaseAt timeMs other.center)

structure Frame.IsSame (twinkle : Twinkle) (frame other : Frame) : Prop where
  viewport : frame.viewport = other.viewport
  timestampMs : frame.timestampMs = other.timestampMs
  background : frame.background = other.background
  overlay : frame.overlay = other.overlay
  nebulae : List.Forall₂ GradientDisc.IsSame frame.nebulae other.nebulae
  stars : List.Forall₂ (StarDisc.IsSame twinkle frame.timestampMs) frame.stars other.stars

theorem point_beq_iff (p q : Point Float32) :
    (p == q) = true ↔ (p.x == q.x) = true ∧ (p.y == q.y) = true := by
  change (p.x == q.x && p.y == q.y) = true ↔ _
  rw [Bool.and_eq_true]

theorem GradientDisc.IsSame.intersects_iff {disc other : GradientDisc} (same : disc.IsSame other)
    (view : Viewport) : disc.intersects view = true ↔ other.intersects view = true := by
  unfold intersects
  simp only [Bool.and_eq_true, decide_eq_true_iff]
  rw [same.radius, (same.center.1.add_right other.radius).lt_right_iff,
    (same.center.2.add_right other.radius).lt_right_iff,
    (same.center.1.sub_right other.radius).lt_left_iff,
    (same.center.2.sub_right other.radius).lt_left_iff]

theorem Twinkle.sameNumber_phaseAt (twinkle : Twinkle) (timeMs : Float) {p q : Point Float32}
    (same : p.IsSame q) :
    SameNumber (twinkle.phaseAt timeMs p) (twinkle.phaseAt timeMs q) :=
  ((same.1.widen.add_left _).add_right _).trans (same.2.widen.add_left _)

namespace ParticleField

variable {field : ParticleField} {steps : Float32} {timeMs : Float}

/-- The tick is the first one since the layout, or not later than the last. -/
def Stands (field : ParticleField) (timeMs : Float) : Prop :=
  forall last, last ∈ field.population.lastTick -> timeMs ≤ last

/-- Every particle has a finite speed. -/
structure HasFiniteSpeeds (field : ParticleField) : Prop where
  stars : forall star, star ∈ field.population.stars ->
    IsFinite star.velocity.x ∧ IsFinite star.velocity.y
  nebulae : forall nebula, nebula ∈ field.population.nebulae ->
    IsFinite nebula.velocity.x ∧ IsFinite nebula.velocity.y

instance (field : ParticleField) : Decidable field.HasFiniteSpeeds :=
  decidable_of_iff
    ((forall star, star ∈ field.population.stars ->
        IsFinite star.velocity.x ∧ IsFinite star.velocity.y) ∧
      forall nebula, nebula ∈ field.population.nebulae ->
        IsFinite nebula.velocity.x ∧ IsFinite nebula.velocity.y)
    ⟨fun both => ⟨both.1, both.2⟩, fun speeds => ⟨speeds.stars, speeds.nebulae⟩⟩

theorem isZero_of_stepsTo (accepted : field.settings.Accepted) (stands : field.Stands timeMs)
    (counted : field.stepsTo timeMs = .ok steps) : IsZero steps := by
  refine Motion.isZero_of_frameSteps accepted.maxFrameMs accepted.speedScale.finite ?_ counted
  unfold Population.elapsed
  cases ticked : field.population.lastTick with
  | none => exact Motion.heldTime_eq_zero _ (Or.inl (show (0 : Float) ≤ 0 by decide))
  | some last => exact Motion.heldTime_of_le _ (stands last ticked)

/-- The first tick after a layout has no earlier one to count from. -/
theorem stands_after_resize {settings : FieldSettings} {empty : ParticleField}
    (configured : configure settings = .ok empty) (calls : List FieldCall) {view : Viewport}
    (reached : empty.run (calls ++ [.resize view]) = .ok field) (timeMs : Float) :
    field.Stands timeMs := by
  rcases configure_eq_ok.mp configured with ⟨accepted, rfl⟩
  have fieldAccepted : (blank settings).settings.Accepted := accepted
  rcases run_ok fieldAccepted calls with ⟨middle, before, kept⟩
  rw [← kept] at fieldAccepted
  rcases resize_spec fieldAccepted view with ⟨population, generator, -, drawn, laidOut⟩
  rw [run_concat before] at reached
  cases reached.symm.trans laidOut
  intro last ticked
  rw [drawn.lastTick] at ticked
  cases ticked

/-! ## Particles -/

theorem stood_star {star : Star Float32} (place : InBandOrLost star.position.x field.viewport.width ∧
      InBandOrLost star.position.y field.viewport.height)
    (speed : IsFinite star.velocity.x ∧ IsFinite star.velocity.y) (standing : IsZero steps) :
    star.Stood field.viewport (star.advance steps field.extent) := by
  refine ⟨rfl, ?_⟩
  rw [point_beq_iff, Viewport.contains_iff]
  exact and_congr
    (Motion.wrap_beq_iff (Motion.sameNumber_drift speed.1 standing _)
      (fun defined => place.1.resolve_right (not_not_intro defined)) field.viewport.isFinite_width)
    (Motion.wrap_beq_iff (Motion.sameNumber_drift speed.2 standing _)
      (fun defined => place.2.resolve_right (not_not_intro defined)) field.viewport.isFinite_height)

theorem stood_nebula {nebula : Nebula Float32} (keeps : nebula.KeepsBand field.viewport)
    (speed : IsFinite nebula.velocity.x ∧ IsFinite nebula.velocity.y) (standing : IsZero steps) :
    nebula.Stood field.viewport (nebula.advance steps field.extent) := by
  refine ⟨rfl, ?_⟩
  rw [point_beq_iff]
  exact and_congr
    (Motion.wrapWithMargin_beq_iff (Motion.sameNumber_drift speed.1 standing _) keeps.x
      field.viewport.isFinite_width field.viewport.one_le_exact_width keeps.marginX)
    (Motion.wrapWithMargin_beq_iff (Motion.sameNumber_drift speed.2 standing _) keeps.y
      field.viewport.isFinite_height field.viewport.one_le_exact_height keeps.marginY)

/-! ## Frames -/

/-- Every star is in view and every nebula is settled. -/
structure IsAtRest (field : ParticleField) : Prop where
  stars : field.StarsInView
  nebulae : forall nebula, nebula ∈ field.population.nebulae -> nebula.IsSettled field.viewport

instance (field : ParticleField) : Decidable field.IsAtRest :=
  decidable_of_iff
    ((forall star, star ∈ field.population.stars ->
        field.viewport.contains star.position = true) ∧
      forall nebula, nebula ∈ field.population.nebulae -> nebula.IsSettled field.viewport)
    ⟨fun both => ⟨both.1, both.2⟩, fun atRest => ⟨atRest.stars, atRest.nebulae⟩⟩

theorem isSame_star {star : Star Float32} (inView : field.viewport.contains star.position = true)
    (speed : IsFinite star.velocity.x ∧ IsFinite star.velocity.y) (standing : IsZero steps) :
    star.position.IsSame (star.advance steps field.extent).position := by
  rcases (field.viewport.contains_iff _).mp inView with ⟨x, y⟩
  exact ⟨(x.wrap field.viewport.isFinite_width (Motion.sameNumber_drift speed.1 standing _)).symm,
    (y.wrap field.viewport.isFinite_height (Motion.sameNumber_drift speed.2 standing _)).symm⟩

theorem isSame_nebula {nebula : Nebula Float32} (settled : nebula.IsSettled field.viewport)
    (keeps : nebula.KeepsBand field.viewport)
    (speed : IsFinite nebula.velocity.x ∧ IsFinite nebula.velocity.y) (standing : IsZero steps) :
    nebula.center.IsSame (nebula.advance steps field.extent).center :=
  ⟨(settled.1.wrapWithMargin keeps.x field.viewport.isFinite_width keeps.marginX
      (Motion.sameNumber_drift speed.1 standing _)).symm,
    (settled.2.wrapWithMargin keeps.y field.viewport.isFinite_height keeps.marginY
      (Motion.sameNumber_drift speed.2 standing _)).symm⟩

/-- The same place gives the same discs. -/
theorem isSame_nebulaDiscs {nebula : Nebula Float32} {center : Point Float32}
    (same : nebula.center.IsSame center) : List.Forall₂ GradientDisc.IsSame (nebulaDiscs nebula)
      (nebulaDiscs { nebula with center := center }) := by
  unfold nebulaDiscs
  rw [List.forall₂_map_left_iff, List.forall₂_map_right_iff]
  exact List.forall₂_same.mpr fun blob _ =>
    ⟨⟨same.1.add_right blob.offset.x, same.2.add_right blob.offset.y⟩, rfl, rfl⟩

theorem isSame_starDisc {star : Star Float32} {place : Point Float32} {other : ParticleField}
    {disc otherDisc : StarDisc} (settings : other.settings = field.settings)
    (same : star.position.IsSame place) (shown : field.starDisc timeMs star = .ok disc)
    (otherShown : other.starDisc timeMs { star with position := place } = .ok otherDisc) :
    disc.IsSame field.settings.twinkle timeMs otherDisc := by
  rcases Outcome.bind_eq_ok.mp shown with ⟨alpha, opacity, made⟩
  rcases Outcome.bind_eq_ok.mp otherShown with ⟨otherAlpha, otherOpacity, otherMade⟩
  cases made
  cases otherMade
  refine ⟨same, rfl, rfl, rfl, ?_⟩
  refine (field.settings.twinkle.sameNumber_phaseAt timeMs same).imp_left fun phase => ?_
  have swing : star.twinkleAlpha field.settings.twinkle timeMs =
      { star with position := place }.twinkleAlpha field.settings.twinkle timeMs :=
    congrArg (fun angle => star.baseAlpha +
      field.settings.twinkle.amplitude * narrow (Double.sine angle)) phase
  unfold starAlpha at opacity otherOpacity
  rw [settings, ← swing, opacity] at otherOpacity
  cases otherOpacity
  rfl

theorem forall₂_moved_stars {related : Star Float32 -> Star Float32 -> Prop}
    (each : forall star, star ∈ field.population.stars ->
      related star (star.advance steps field.extent)) :
    List.Forall₂ related field.population.stars (field.moved steps timeMs).population.stars :=
  List.forall₂_map_right_iff.mpr (List.forall₂_same.mpr each)

theorem forall₂_moved_nebulae {related : Nebula Float32 -> Nebula Float32 -> Prop}
    (each : forall nebula, nebula ∈ field.population.nebulae ->
      related nebula (nebula.advance steps field.extent)) :
    List.Forall₂ related field.population.nebulae
      (field.moved steps timeMs).population.nebulae :=
  List.forall₂_map_right_iff.mpr (List.forall₂_same.mpr each)

/-- A field at rest is described by the same frame behind such a tick. -/
theorem isSame_describe (atRest : field.IsAtRest) (keeps : field.NebulaeKeepBand)
    (speeds : field.HasFiniteSpeeds) (standing : IsZero steps) {shown frame : Frame}
    (described : field.describe timeMs = .ok shown)
    (describedNext : (field.moved steps timeMs).describe timeMs = .ok frame) :
    shown.IsSame field.settings.twinkle frame := by
  rcases Outcome.bind_eq_ok.mp described with ⟨discs, drawn, made⟩
  rcases Outcome.bind_eq_ok.mp describedNext with ⟨nextDiscs, drawnNext, madeNext⟩
  cases made
  cases madeNext
  have stars : List.Forall₂ (fun star later => star.position.IsSame later.position ∧
      later = { star with position := later.position }) field.population.stars
      (field.moved steps timeMs).population.stars :=
    forall₂_moved_stars fun star member =>
      ⟨isSame_star (atRest.stars star member) (speeds.stars star member) standing, rfl⟩
  have nebulae : List.Forall₂ (fun nebula later => nebula.center.IsSame later.center ∧
      later = { nebula with center := later.center }) field.population.nebulae
      (field.moved steps timeMs).population.nebulae :=
    forall₂_moved_nebulae fun nebula member =>
      ⟨isSame_nebula (atRest.nebulae nebula member) (keeps nebula member)
        (speeds.nebulae nebula member) standing, rfl⟩
  have nebulaDiscs : List.Forall₂ GradientDisc.IsSame
      (field.population.nebulae.flatMap nebulaDiscs)
      ((field.moved steps timeMs).population.nebulae.flatMap nebulaDiscs) := by
    refine List.rel_flatMap nebulae ?_
    rintro nebula later ⟨same, rest⟩
    rw [rest]
    exact isSame_nebulaDiscs same
  exact {
    viewport := rfl
    timestampMs := rfl
    background := rfl
    overlay := rfl
    nebulae := List.rel_filter (fun _ _ same => same.intersects_iff field.viewport) nebulaDiscs
    stars := by
      refine Outcome.forall₂_of_mapM ?_ stars drawn drawnNext
      rintro star later disc nextDisc ⟨same, rest⟩ shown shownNext
      rw [rest] at shownNext
      exact isSame_starDisc rfl same shown shownNext }

/-- After every history, a tick without time leaves exactly those stars where
they are that are in view, and exactly those nebulae that are settled.  It
changes nothing else, and if it changes no place, its frame is the one that the
field had before. -/
theorem tick_without_time {settings : FieldSettings} {empty : ParticleField}
    (configured : configure settings = .ok empty) (calls : List FieldCall) :
    Exists fun field => empty.run calls = .ok field ∧ forall timeMs, field.Stands timeMs ->
      field.HasFiniteSpeeds -> Exists fun shown => Exists fun frame => Exists fun next =>
        field.describe timeMs = .ok shown ∧ field.tick timeMs = .ok (frame, next) ∧
        next = { field with population := { next.population with lastTick := some timeMs } } ∧
        List.Forall₂ (Star.Stood field.viewport) field.population.stars next.population.stars ∧
        List.Forall₂ (Nebula.Stood field.viewport) field.population.nebulae
          next.population.nebulae ∧
        (field.IsAtRest -> shown.IsSame settings.twinkle frame) := by
  rcases run_spec configured calls with ⟨field, reached, rfl, places, -⟩
  rcases run_nebulaeKeepBand configured calls with ⟨same, reachedSame, -, keeps, -⟩
  cases reached.symm.trans reachedSame
  have accepted := (configure_eq_ok.mp configured).1
  refine ⟨field, reached, fun timeMs stands speeds => ?_⟩
  rcases describe_ok accepted timeMs with ⟨shown, described⟩
  rcases tick_spec accepted timeMs with ⟨steps, frame, counted, describedNext, ticked⟩
  have standing := isZero_of_stepsTo accepted stands counted
  exact ⟨shown, frame, _, described, ticked, rfl,
    forall₂_moved_stars fun star member =>
      stood_star (places star member) (speeds.stars star member) standing,
    forall₂_moved_nebulae fun nebula member =>
      stood_nebula (keeps nebula member) (speeds.nebulae nebula member) standing,
    fun atRest => isSame_describe atRest keeps speeds standing described describedNext⟩

/-- A nebula that is settled in a view of 640 to 480 pixels, and the two frames
of it. -/
theorem tick_without_time_oneBlob : Exists fun field => Exists fun shown => Exists fun frame =>
    Exists fun next => configure (oneBlobSettings 100 7) = .ok (blank (oneBlobSettings 100 7)) ∧
      (blank (oneBlobSettings 100 7)).run [.resize (.ofReadings 640 480 1)] = .ok field ∧
      field.Stands 0 ∧ field.HasFiniteSpeeds ∧ field.IsAtRest ∧
      field.population.nebulae.length = 1 ∧ field.describe 0 = .ok shown ∧
      field.tick 0 = .ok (frame, next) ∧ shown.IsSame {} frame := by
  have configured : configure (oneBlobSettings 100 7) = .ok (blank (oneBlobSettings 100 7)) :=
    configure_eq_ok.mpr ⟨(FieldSettings.validate_eq_ok _).mp rfl, rfl⟩
  have settled : ((blank (oneBlobSettings 100 7)).run
      [.resize (.ofReadings 640 480 1)]).toOption.map (fun field =>
        (field.population.nebulae.length, decide field.HasFiniteSpeeds, decide field.IsAtRest)) =
      some (1, true, true) := by
    decide +kernel
  rcases tick_without_time configured [.resize (.ofReadings 640 480 1)] with
    ⟨field, reached, ticking⟩
  have stands : field.Stands 0 := stands_after_resize configured [] reached 0
  rw [reached] at settled
  rcases Prod.mk.inj (Option.some.inj settled) with ⟨number, others⟩
  rcases Prod.mk.inj others with ⟨finite, still⟩
  have speeds : field.HasFiniteSpeeds := of_decide_eq_true finite
  have atRest : field.IsAtRest := of_decide_eq_true still
  rcases ticking 0 stands speeds with ⟨shown, frame, next, described, ticked, -, -, -, same⟩
  exact ⟨field, shown, frame, next, configured, reached, stands, speeds, atRest, number, described,
    ticked, same atRest⟩

/-- With another seed the same nebula is not settled, and the first tick after
the layout moves it although it has no time to. -/
theorem exists_nebula_moved_without_time : Exists fun empty => Exists fun field =>
    Exists fun frame => Exists fun next =>
      configure { oneBlobSettings 100 7 with seed := 2 } = .ok empty ∧
      empty.run [.resize (.ofReadings 640 480 1)] = .ok field ∧ field.Stands 0 ∧
      field.HasFiniteSpeeds ∧ field.tick 0 = .ok (frame, next) ∧
      ¬List.Forall₂ (fun nebula later => (later.center == nebula.center) = true)
        field.population.nebulae next.population.nebulae := by
  have moved : ((configure { oneBlobSettings 100 7 with seed := 2 }).toOption.bind fun empty =>
      (empty.run [.resize (.ofReadings 640 480 1)]).toOption.bind fun field =>
        (field.tick 0).toOption.map fun ticked =>
          (decide field.HasFiniteSpeeds, decide (List.Forall₂
            (fun nebula later => (later.center == nebula.center) = true)
            field.population.nebulae ticked.2.population.nebulae))) = some (true, false) := by
    decide +kernel
  rcases Option.bind_eq_some_iff.mp moved with ⟨empty, accepted, ran⟩
  rcases Option.bind_eq_some_iff.mp ran with ⟨field, led, seen⟩
  rcases Option.map_eq_some_iff.mp seen with ⟨⟨frame, next⟩, ticked, found⟩
  rcases Prod.mk.inj found with ⟨finite, apart⟩
  have configured := Outcome.toOption_eq_some.mp accepted
  have reached := Outcome.toOption_eq_some.mp led
  exact ⟨empty, field, frame, next, configured, reached,
    stands_after_resize configured [] reached 0, of_decide_eq_true finite,
    Outcome.toOption_eq_some.mp ticked, of_decide_eq_false apart⟩

end ParticleField

end Starfield
