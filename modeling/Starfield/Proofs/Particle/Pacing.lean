import Starfield.Proofs.Particle.NebulaBand
import Starfield.Proofs.Particle.Unrounded

namespace Starfield

/-!
# The pacing of ticks

A tick moves every particle by the steps of the time since the last one, as far
as that time is not cut off.  Without rounding the steps of several ticks add
up, and a wrap on the way changes nothing about where they lead.  So only the
first and the last time of a sequence of ticks matter.
-/

theorem Point.ext_along {α : Type} {p q : Point α}
    (same : forall axis, p.along axis = q.along axis) : p = q := by
  cases p
  cases q
  cases same .x
  cases same .y
  rfl

/-! ## Steps add up -/

section Steps

variable {extent : Point ℚ} (steps more : ℚ)

theorem Star.advanceExactly_add (wide : forall axis, 0 < extent.along axis) (star : Star ℚ) :
    (star.advanceExactly steps extent).advanceExactly more extent =
      star.advanceExactly (steps + more) extent := by
  have place : ((star.advanceExactly steps extent).advanceExactly more extent).position =
      (star.advanceExactly (steps + more) extent).position := by
    refine Point.ext_along fun axis => ?_
    simp only [advanceExactly_position]
    change Motion.wrapExactly (_ + star.velocity.along axis * more) _ = _
    rw [Motion.wrapExactly_add (wide axis), mul_add, add_assoc]
  exact congrArg (fun position => { star with position }) place

theorem Nebula.advanceExactly_add (wide : forall axis, 0 < extent.along axis) {nebula : Nebula ℚ}
    (margin : forall axis, 0 ≤ nebula.margin.along axis) :
    (nebula.advanceExactly steps extent).advanceExactly more extent =
      nebula.advanceExactly (steps + more) extent := by
  have place : ((nebula.advanceExactly steps extent).advanceExactly more extent).center =
      (nebula.advanceExactly (steps + more) extent).center := by
    refine Point.ext_along fun axis => ?_
    have positive : 0 < extent.along axis + 2 * nebula.margin.along axis := by
      linarith [wide axis, margin axis]
    simp only [advanceExactly_center]
    change Motion.wrapWithMarginExactly (_ + nebula.velocity.along axis * more) _
      (nebula.margin.along axis) = _
    rw [Motion.wrapWithMarginExactly_add positive, mul_add, add_assoc]
  exact congrArg (fun center => { nebula with center }) place

end Steps

/-! ## Ticks -/

/-- The steps of a time that is not cut off. -/
theorem Motion.frameSteps_exactly {elapsed longest : ℚ} (nonneg : 0 ≤ elapsed)
    (short : elapsed ≤ longest) (scale : ℚ) :
    @frameSteps ℚ ℚ exactClock exactMeasure elapsed longest scale =
      .ok (elapsed / (1000 / 60) * scale) := by
  have kept : clampOrdered 0 longest elapsed = .ok elapsed := by
    unfold clampOrdered clamp
    rw [if_pos (nonneg.trans short), if_neg nonneg.not_gt, if_neg short.not_gt]
  change (clampOrdered 0 longest elapsed >>= fun time => .ok (time / (1000 / 60) * scale)) = _
  rw [kept]
  rfl

namespace Population

/-- The population after some steps. -/
def advanceExactly (population : Population ℚ ℚ) (steps : ℚ) (extent : Point ℚ) :
    Population ℚ ℚ :=
  @advance ℚ ℚ exactMeasure population steps extent

/-- The population moved to a time. -/
def tickExactly (population : Population ℚ ℚ) (longest scale : ℚ) (extent : Point ℚ) (time : ℚ) :
    Except Fault (Population ℚ ℚ) :=
  @tick ℚ ℚ exactMeasure exactClock population longest scale extent time

/-- A population as a layout leaves it: not moved yet, and with no negative
margin. -/
structure IsLaidOut (population : Population ℚ ℚ) : Prop where
  lastTick : population.lastTick = none
  margins : forall nebula, nebula ∈ population.nebulae ->
    forall axis, 0 ≤ nebula.margin.along axis

/-- The population that some steps lead to, at the time of the last of them. -/
def placed (population : Population ℚ ℚ) (extent : Point ℚ) (steps time : ℚ) : Population ℚ ℚ :=
  { population.advanceExactly steps extent with lastTick := some time }

variable {population : Population ℚ ℚ} {extent : Point ℚ} {longest scale : ℚ}

theorem IsLaidOut.placed_advance (laidOut : population.IsLaidOut)
    (wide : forall axis, 0 < extent.along axis) (steps time more next : ℚ) :
    (population.placed extent steps time).placed extent more next =
      population.placed extent (steps + more) next := by
  have stars : ((population.stars.map (·.advanceExactly steps extent)).map
      (·.advanceExactly more extent)) =
        population.stars.map (·.advanceExactly (steps + more) extent) := by
    rw [List.map_map]
    exact List.map_congr_left fun star _ => star.advanceExactly_add steps more wide
  have nebulae : ((population.nebulae.map (·.advanceExactly steps extent)).map
      (·.advanceExactly more extent)) =
        population.nebulae.map (·.advanceExactly (steps + more) extent) := by
    rw [List.map_map]
    exact List.map_congr_left fun nebula member =>
      Nebula.advanceExactly_add steps more wide (laidOut.margins nebula member)
  exact congrArg₂ (Population.mk · · (some next)) stars nebulae

/-- A tick makes the steps of the time since the last one. -/
theorem tickExactly_eq {elapsed time : ℚ}
    (passed : @Population.elapsed ℚ ℚ exactClock population time = elapsed)
    (nonneg : 0 ≤ elapsed) (short : elapsed ≤ longest) :
    population.tickExactly longest scale extent time =
      .ok (population.placed extent (elapsed / (1000 / 60) * scale) time) := by
  subst passed
  unfold tickExactly tick
  rw [Motion.frameSteps_exactly nonneg short]
  rfl

/-- The first tick makes no steps. -/
theorem IsLaidOut.tickExactly_eq (laidOut : population.IsLaidOut) (bounded : 0 ≤ longest)
    (time : ℚ) : population.tickExactly longest scale extent time =
      .ok (population.placed extent 0 time) := by
  have passed : @elapsed ℚ ℚ exactClock population time = 0 := by
    unfold elapsed
    rw [laidOut.lastTick]
  rw [Population.tickExactly_eq passed le_rfl bounded, zero_div, zero_mul]

/-- Times that do not run backward and leave no gap that a tick would cut off. -/
def IsPaced (longest : ℚ) (times : List ℚ) : Prop :=
  times.IsChain fun time next => time ≤ next ∧ next - time ≤ longest

/-- The population after ticks at some times. -/
def tickAllExactly (population : Population ℚ ℚ) (longest scale : ℚ) (extent : Point ℚ)
    (times : List ℚ) : Except Fault (Population ℚ ℚ) :=
  times.foldlM (fun population time => population.tickExactly longest scale extent time) population

/-- One more tick adds the steps of its time. -/
theorem IsLaidOut.tickExactly_placed (laidOut : population.IsLaidOut)
    (wide : forall axis, 0 < extent.along axis) {time next : ℚ} (ordered : time ≤ next)
    (short : next - time ≤ longest) (steps : ℚ) :
    (population.placed extent steps time).tickExactly longest scale extent next =
      .ok (population.placed extent (steps + (next - time) / (1000 / 60) * scale) next) := by
  have passed : @elapsed ℚ ℚ exactClock (population.placed extent steps time) next = next - time :=
    rfl
  rw [Population.tickExactly_eq passed (sub_nonneg.mpr ordered) short,
    laidOut.placed_advance wide]

/-- The steps of all ticks together are those of the time between the first and
the last. -/
theorem IsLaidOut.tickAllExactly_placed (laidOut : population.IsLaidOut)
    (wide : forall axis, 0 < extent.along axis) {time : ℚ} {times : List ℚ}
    (paced : IsPaced longest (time :: times)) (steps : ℚ) :
    let last := (time :: times).getLast (List.cons_ne_nil time times)
    (population.placed extent steps time).tickAllExactly longest scale extent times =
      .ok (population.placed extent (steps + (last - time) / (1000 / 60) * scale) last) := by
  induction times generalizing time steps with
  | nil =>
      intro last
      have none_passed : steps + (last - time) / (1000 / 60) * scale = steps := by
        rw [show last - time = 0 from sub_self time, zero_div, zero_mul, add_zero]
      rw [none_passed]
      rfl
  | cons next times ih =>
      intro last
      rw [IsPaced, List.isChain_cons_cons] at paced
      have rest := ih paced.2 (steps + (next - time) / (1000 / 60) * scale)
      have same : (next :: times).getLast (List.cons_ne_nil next times) = last :=
        (List.getLast_cons _).symm
      rw [same] at rest
      unfold tickAllExactly
      rw [List.foldlM_cons, laidOut.tickExactly_placed wide paced.1.1 paced.1.2, Outcome.ok_bind]
      refine rest.trans ?_
      rw [show steps + (next - time) / (1000 / 60) * scale + (last - next) / (1000 / 60) * scale =
        steps + (last - time) / (1000 / 60) * scale by ring]

/-- Where ticks at some times lead to depends on the first and the last of
them. -/
theorem IsLaidOut.tickAllExactly_cons (laidOut : population.IsLaidOut) (bounded : 0 ≤ longest)
    (wide : forall axis, 0 < extent.along axis) {time : ℚ} {times : List ℚ}
    (paced : IsPaced longest (time :: times)) :
    let last := (time :: times).getLast (List.cons_ne_nil time times)
    population.tickAllExactly longest scale extent (time :: times) =
      .ok (population.placed extent ((last - time) / (1000 / 60) * scale) last) := by
  intro last
  unfold tickAllExactly
  rw [List.foldlM_cons, laidOut.tickExactly_eq bounded, Outcome.ok_bind]
  exact (laidOut.tickAllExactly_placed wide paced 0).trans (by rw [zero_add])

theorem IsLaidOut.tickAllExactly_eq (laidOut : population.IsLaidOut) (bounded : 0 ≤ longest)
    (wide : forall axis, 0 < extent.along axis) {times others : List ℚ}
    (paced : IsPaced longest times) (otherPaced : IsPaced longest others)
    (first : times.head? = others.head?) (last : times.getLast? = others.getLast?) :
    Exists fun moved => population.tickAllExactly longest scale extent times = .ok moved ∧
      population.tickAllExactly longest scale extent others = .ok moved := by
  cases times with
  | nil =>
      cases others with
      | nil => exact ⟨population, rfl, rfl⟩
      | cons => cases first
  | cons time times =>
      cases others with
      | nil => cases first
      | cons other others =>
          cases first
          rw [List.getLast?_eq_some_getLast (List.cons_ne_nil _ _),
            List.getLast?_eq_some_getLast (List.cons_ne_nil _ _), Option.some_inj] at last
          refine ⟨_, laidOut.tickAllExactly_cons bounded wide paced, ?_⟩
          rw [laidOut.tickAllExactly_cons bounded wide otherPaced, last]

end Population

/-! ## Fields -/

/-- A star with its numbers as they are. -/
def Star.exactly (star : Star Float32) : Star ℚ where
  position := star.position.map exact
  velocity := star.velocity.map exact
  size := star.size
  baseAlpha := star.baseAlpha
  color := star.color
  glow := star.glow
  layer := star.layer

def Blob.exactly (blob : Blob Float32) : Blob ℚ where
  offset := blob.offset.map exact
  radius := exact blob.radius
  alpha := blob.alpha
  color := blob.color

def Nebula.exactly (nebula : Nebula Float32) : Nebula ℚ where
  center := nebula.center.map exact
  velocity := nebula.velocity.map exact
  alpha := nebula.alpha
  blobs := nebula.blobs.map Blob.exactly
  margin := nebula.margin.map exact

def Population.exactly (population : Population Float Float32) : Population ℚ ℚ where
  stars := population.stars.map Star.exactly
  nebulae := population.nebulae.map Nebula.exactly
  lastTick := population.lastTick.map exact

namespace ParticleField

/-- The particles after ticks at some times, with the settings and the view of a
field and nothing rounded. -/
def tickAllExactly (field : ParticleField) (particles : Population ℚ ℚ) (times : List ℚ) :
    Except Fault (Population ℚ ℚ) :=
  particles.tickAllExactly (exact field.settings.motion.maxFrameMs)
    (exact field.settings.motion.speedScale) (field.extent.map exact) times

/-- The particles of a layout are laid out when they are read exactly. -/
theorem isLaidOut_exactly {settings : FieldSettings} {view : Viewport}
    {population : Population Float Float32} (drawn : population.Drawn settings view) :
    population.exactly.IsLaidOut where
  lastTick := by
    rw [Population.exactly, drawn.lastTick]
    rfl
  margins nebula member axis := by
    rcases List.mem_map.mp member with ⟨original, listed, rfl⟩
    have margins := Nebula.isMargin_marginOf original.blobs
    rw [← (drawn.nebulae.2 original listed).margin] at margins
    cases axis
    · exact margins.1.nonneg
    · exact margins.2.nonneg

/-- After a layout of any field, ticks along two sequences of times with the same
ends lead to the same particles if neither sequence runs backward or leaves a
gap that a tick would cut off.  The particles may be those of the layout, or any
others over exact numbers that a layout could leave behind. -/
theorem motion_ignores_pacing {settings : FieldSettings} {empty field : ParticleField}
    {calls : List FieldCall} (configured : configure settings = .ok empty)
    (reached : empty.run calls = .ok field) (view : Viewport) :
    Exists fun laid => field.resize view = .ok laid ∧ laid.population.exactly.IsLaidOut ∧
      forall (particles : Population ℚ ℚ) (times others : List ℚ), particles.IsLaidOut ->
        Population.IsPaced (exact settings.motion.maxFrameMs) times ->
        Population.IsPaced (exact settings.motion.maxFrameMs) others ->
        times.head? = others.head? -> times.getLast? = others.getLast? ->
        Exists fun moved => laid.tickAllExactly particles times = .ok moved ∧
          laid.tickAllExactly particles others = .ok moved := by
  rcases configure_eq_ok.mp configured with ⟨accepted, rfl⟩
  rcases @run_ok (blank settings) accepted calls with ⟨last, same, kept⟩
  cases reached.symm.trans same
  have unchanged : field.settings = settings := kept
  subst unchanged
  rcases resize_spec accepted view with ⟨population, generator, -, drawn, laidOut⟩
  refine ⟨_, laidOut, isLaidOut_exactly drawn, ?_⟩
  intro particles times others freshly paced otherPaced first final
  refine freshly.tickAllExactly_eq accepted.maxFrameMs.nonneg (fun axis => ?_) paced otherPaced
    first final
  cases axis
  · exact view.exact_width_pos
  · exact view.exact_height_pos

/-- Twelve steps in four ticks and in three, with particles that leave a view of
one pixel several times. -/
theorem motion_ignores_pacing_onePixel :
    let particles : Population ℚ ℚ := {
      stars := [⟨⟨1 / 2, 1 / 4⟩, ⟨1 / 8, -1 / 8⟩, 1, 1, .black, 0, 0⟩]
      nebulae := [⟨⟨1 / 2, 1 / 2⟩, ⟨-1, 1 / 4⟩, 1, [], ⟨3, 2⟩⟩] }
    Exists fun empty => Exists fun field => Exists fun laid => Exists fun moved =>
      configure {} = .ok empty ∧ empty.run [.resize .smallest, .tick 16] = .ok field ∧
      field.resize .smallest = .ok laid ∧ particles.IsLaidOut ∧
      laid.tickAllExactly particles [0, 100, 100, 200] = .ok moved ∧
      laid.tickAllExactly particles [0, 150, 200] = .ok moved ∧
      moved.stars.map (·.position) = [⟨0, 3 / 4⟩] ∧
      moved.nebulae.map (·.center) = [⟨5 / 2, -3 / 2⟩] := by
  intro particles
  have accepted : FieldSettings.Accepted {} := (FieldSettings.validate_eq_ok {}).mp rfl
  have configured : configure {} = .ok (blank {}) := configure_eq_ok.mpr ⟨accepted, rfl⟩
  have longest : exact ({} : FieldSettings).motion.maxFrameMs = 250 := by
    rw [exact_of_unpack (u := .finite .positive 8796093022208000 (-45) (by decide)) rfl]
    norm_num [Exact.value, Exact.signed]
  have freshly : particles.IsLaidOut := ⟨rfl, by
    rw [List.forall_mem_singleton]
    rintro (_ | _)
    · exact (show (0 : ℚ) ≤ 3 by norm_num)
    · exact (show (0 : ℚ) ≤ 2 by norm_num)⟩
  have paced : Population.IsPaced 250 [0, 100, 100, 200] := by
    norm_num [Population.IsPaced]
  have otherPaced : Population.IsPaced 250 [0, 150, 200] := by
    norm_num [Population.IsPaced]
  rcases @run_ok (blank {}) accepted [.resize .smallest, .tick 16] with ⟨field, reached, kept⟩
  rcases motion_ignores_pacing configured reached .smallest with ⟨laid, laidOut, -, ignores⟩
  rcases ignores particles [0, 100, 100, 200] [0, 150, 200] freshly (longest.symm ▸ paced)
    (longest.symm ▸ otherPaced) rfl rfl with ⟨moved, first, second⟩
  refine ⟨_, field, laid, moved, configured, reached, laidOut, freshly, first, second, ?_⟩
  -- Where the twelve steps lead.
  rcases of_resize_eq_ok laidOut with ⟨settings, viewport, -⟩
  have extent : laid.extent.map exact = ⟨1, 1⟩ := by
    unfold ParticleField.extent
    rw [viewport]
    exact congrArg₂ Point.mk exact_single_one exact_single_one
  have scale : exact ({} : FieldSettings).motion.speedScale = 1 := exact_single_one
  have plain : laid.tickAllExactly particles [0, 100, 100, 200] =
      particles.tickAllExactly 250 1 ⟨1, 1⟩ [0, 100, 100, 200] := by
    unfold tickAllExactly
    rw [settings, kept, extent]
    exact congrArg₂ (particles.tickAllExactly · · ⟨1, 1⟩ [0, 100, 100, 200]) longest scale
  have wide (axis : Axis) : (0 : ℚ) < Point.along axis ⟨1, 1⟩ := by
    cases axis <;> exact zero_lt_one
  rw [plain, freshly.tickAllExactly_cons (by norm_num) wide paced] at first
  cases first
  decide +kernel

end ParticleField

end Starfield
