import Starfield.Proofs.Particle.Attributes
import Starfield.Proofs.Particle.Twinkling

namespace Starfield

/-!
# Opacities as they are reported

The opacity of a star is moved into its band when somebody asks for it, and then
into `[0, 1]` when it becomes part of a color.  A band that was accepted lies in
`[0, 1]`, so the second move finds nothing to do, and neither does it for the
product of two opacities in their ranges.  An undefined opacity is left alone by
both moves.  So a frame shows the opacities that the field reports.
-/

theorem Range.IsUnit.of_contains {range : Range} (sound : range.IsUnit) {x : Float32}
    (inside : range.contains x = true) : Starfield.IsUnit x := by
  unfold contains at inside
  rw [Bool.and_eq_true, decide_eq_true_iff, decide_eq_true_iff, le_iff range.min,
    le_iff _ range.max] at inside
  rcases inside with ⟨⟨-, defined, low⟩, -, -, high⟩
  exact .of_bounds defined (sound.nonneg.trans low) (high.trans sound.le_one)

/-! ## What a frame shows -/

/-- A disc shows a star as it is, with the opacity that is reported for it. -/
structure StarDisc.Shows (disc : StarDisc) (field : ParticleField) (timeMs : Float)
    (star : Star Float32) : Prop where
  center : disc.center = star.position
  radius : disc.radius = star.size
  color : disc.color.rgb = star.color
  alpha : field.starAlpha star timeMs = .ok disc.color.alpha
  glow : disc.glow = star.glow

/-- A disc shows a blob at its place, with the product of both opacities. -/
structure GradientDisc.Shows (disc : GradientDisc) (nebula : Nebula Float32)
    (blob : Blob Float32) : Prop where
  center : disc.center = nebula.center + blob.offset
  radius : disc.radius = blob.radius
  color : disc.color.rgb = blob.color
  alpha : disc.color.alpha = blob.alpha * nebula.alpha

namespace ParticleField

/-- Every blob with its nebula, in order. -/
def blobs (field : ParticleField) : List (Nebula Float32 × Blob Float32) :=
  field.population.nebulae.flatMap fun nebula => nebula.blobs.map (nebula, ·)

/-- Some part of the square around a blob lies in the view, whatever its color. -/
def isInSight (field : ParticleField) (part : Nebula Float32 × Blob Float32) : Bool :=
  (⟨part.1.center + part.2.offset, part.2.radius, .transparent⟩ : GradientDisc).intersects
    field.viewport

theorem mem_blobs {field : ParticleField} {part : Nebula Float32 × Blob Float32}
    (member : part ∈ field.blobs) : part.1 ∈ field.population.nebulae ∧ part.2 ∈ part.1.blobs := by
  rcases List.mem_flatMap.mp member with ⟨nebula, inField, listed⟩
  rcases List.mem_map.mp listed with ⟨blob, inNebula, rfl⟩
  exact ⟨inField, inNebula⟩

end ParticleField

/-- A frame shows all stars, and exactly those blobs that are in sight, one by
one and in order. -/
structure Frame.Shows (frame : Frame) (field : ParticleField) (timeMs : Float) : Prop where
  stars : List.Forall₂ (fun star disc => disc.Shows field timeMs star)
    field.population.stars frame.stars
  nebulae : List.Forall₂ (fun part disc => disc.Shows part.1 part.2)
    (field.blobs.filter field.isInSight) frame.nebulae

namespace ParticleField

variable {field : ParticleField} {settings : FieldSettings} {timeMs : Float}

theorem shows_starDisc (accepted : field.settings.Accepted) {star : Star Float32} {disc : StarDisc}
    (drawn : field.starDisc timeMs star = .ok disc) : disc.Shows field timeMs star := by
  rcases Outcome.bind_eq_ok.mp drawn with ⟨alpha, reported, made⟩
  cases made
  have same : Single.clampUnit alpha = alpha := accepted.alphaClamp.clampUnit_clamp reported
  exact ⟨rfl, rfl, rfl, reported.trans (congrArg _ same.symm), rfl⟩

/-- The disc that a blob is painted as. -/
def blobDisc (part : Nebula Float32 × Blob Float32) : GradientDisc :=
  ⟨part.1.center + part.2.offset, part.2.radius,
    part.2.color.withAlpha (part.2.alpha * part.1.alpha)⟩

theorem shows_blobDisc (accepted : settings.nebula.Accepted)
    {part : Nebula Float32 × Blob Float32} (inRanges : part.1.InRanges settings.nebula)
    (inNebula : part.2 ∈ part.1.blobs) : (blobDisc part).Shows part.1 part.2 := by
  have whole := accepted.alpha.of_contains inRanges.alpha
  have own := accepted.blobAlpha.of_contains (inRanges.blobs part.2 inNebula).alpha
  exact ⟨rfl, rfl, rfl, (own.mul whole).clampUnit_eq⟩

/-- Leaving out discs is leaving out blobs, because a square has no color. -/
theorem filter_nebulaDiscs (field : ParticleField) :
    (field.population.nebulae.flatMap nebulaDiscs).filter (·.intersects field.viewport) =
      (field.blobs.filter field.isInSight).map blobDisc := by
  have discs : field.population.nebulae.flatMap nebulaDiscs = field.blobs.map blobDisc := by
    unfold blobs nebulaDiscs
    rw [List.map_flatMap]
    simp only [List.map_map]
    rfl
  rw [discs, List.filter_map]
  rfl

theorem shows_describe {frame : Frame} (accepted : field.settings.Accepted)
    (inRanges : field.population.InRanges field.settings)
    (described : field.describe timeMs = .ok frame) : frame.Shows field timeMs := by
  rcases Outcome.bind_eq_ok.mp described with ⟨discs, drawn, made⟩
  cases made
  constructor
  · exact (Outcome.forall₂_of_mapM_eq_ok drawn).imp fun _ _ => shows_starDisc accepted
  · change List.Forall₂ _ _ ((field.population.nebulae.flatMap nebulaDiscs).filter _)
    rw [filter_nebulaDiscs, List.forall₂_map_right_iff, List.forall₂_same]
    intro part member
    rcases mem_blobs (List.mem_of_mem_filter member) with ⟨inField, inNebula⟩
    exact shows_blobDisc accepted.nebula (inRanges.nebulae part.1 inField) inNebula

/-- After every history and for every time, defined or not, the field has a frame
and so has its tick, and both show what the field reports then: each star with
its own opacity, and the blobs in sight with the product of theirs. -/
theorem frames_show_reported {empty : ParticleField} (configured : configure settings = .ok empty)
    (calls : List FieldCall) : Exists fun field => empty.run calls = .ok field ∧ forall timeMs,
      Exists fun shown => Exists fun frame => Exists fun next =>
        field.describe timeMs = .ok shown ∧ shown.Shows field timeMs ∧
        field.tick timeMs = .ok (frame, next) ∧ frame.Shows next timeMs := by
  have accepted := (configure_eq_ok.mp configured).1
  rcases run_inRanges configured calls with ⟨field, reached, rfl, inRanges⟩
  refine ⟨field, reached, fun timeMs => ?_⟩
  rcases describe_ok accepted timeMs with ⟨shown, described⟩
  rcases tick_spec accepted timeMs with ⟨steps, frame, -, describedNext, ticked⟩
  rcases run_inRanges configured (calls ++ [.tick timeMs]) with ⟨next, reachedNext, -, inRangesNext⟩
  cases ((run_concat reached _).trans (call_tick ticked)).symm.trans reachedNext
  have kept : (field.moved steps timeMs).settings.Accepted := accepted
  exact ⟨shown, frame, _, described, shows_describe accepted inRanges described, ticked,
    shows_describe kept inRangesNext describedNext⟩

/-- A time that is no number. -/
theorem frames_show_reported_default : configure {} = .ok (blank {}) ∧
    Exists fun field => (blank {}).run [.resize (.ofReadings 640 480 1), .tick 0] = .ok field ∧
      Exists fun frame => Exists fun next =>
        field.tick Binary.undefined = .ok (frame, next) ∧ frame.Shows next Binary.undefined := by
  have configured : configure {} = .ok (blank {}) :=
    configure_eq_ok.mpr ⟨FieldSettings.accepted_default, rfl⟩
  rcases frames_show_reported configured [.resize (.ofReadings 640 480 1), .tick 0] with
    ⟨field, reached, shows⟩
  rcases shows Binary.undefined with ⟨-, frame, next, -, -, ticked, showsNext⟩
  exact ⟨configured, field, reached, frame, next, ticked, showsNext⟩

end ParticleField

end Starfield
