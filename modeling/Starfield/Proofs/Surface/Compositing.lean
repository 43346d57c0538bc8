import Starfield.Proofs.Settings.Accepted
import Starfield.Proofs.Surface.Clipping

namespace Starfield

/-!
# Compositing between zero and one

Laying a color over another divides two rounded sums, neither of which is
sure to stay below one before it is rounded.  But rounding is monotone, so each
sum can be compared with a larger one.  The opacity is at most what a strength
and the rest of it to one make together, which is one; every other channel is
summed from parts that are not above those of the opacity.

The same comparison is an equality where the color below is opaque, so an opaque
pixel never becomes translucent, whatever is laid over it.
-/

/-- Every channel, the opacity among them, is a number between 0 and 1. -/
structure Rgba.IsNormal (color : Rgba) : Prop where
  rgb : color.rgb.IsNormal
  alpha : IsUnit color.alpha

namespace Rgba

theorem isNormal_iff (color : Rgba) :
    (color.rgb.isNormalized && isChannel color.alpha) = true ↔ color.IsNormal := by
  rw [Bool.and_eq_true, Rgb.isNormalized_iff, isChannel, isUnit_iff]
  exact ⟨fun ⟨rgb, alpha⟩ => ⟨rgb, alpha⟩, fun ⟨rgb, alpha⟩ => ⟨rgb, alpha⟩⟩

theorem isNormal_transparent : Rgba.transparent.IsNormal :=
  ⟨⟨isUnit_zero, isUnit_zero, isUnit_zero⟩, isUnit_zero⟩

end Rgba

theorem Rgb.IsNormal.withAlpha {color : Rgb} {alpha : Float32} (normal : color.IsNormal)
    (unit : IsUnit alpha) : (color.withAlpha alpha).IsNormal :=
  ⟨normal, (clampUnit_spec unit.finite.isDefined).1⟩

/-! ## One color over another -/

namespace PixelSurface

section Composite

variable {strength below : Float32}

/-- What is left of a channel under some strength is not above what is left of
everything. -/
theorem exact_share_le (unit : IsUnit strength) (other : IsUnit below) :
    exact (below * (1 - strength)) ≤ exact (1 - strength) :=
  (rounds_mul other.finite unit.complement.finite).le (isValue_exact _)
    (mul_le_of_le_one_left unit.complement.nonneg other.le_one)

/-- The opacity of two colors is one of the interval, and not below the
strength of the upper one. -/
theorem isUnit_opacity (unit : IsUnit strength) (other : IsUnit below) :
    IsUnit (strength + below * (1 - strength)) ∧
      exact strength ≤ exact (strength + below * (1 - strength)) := by
  have share := other.mul unit.complement
  have sum := rounds_add unit.finite share.finite
  have above : exact strength ≤ exact (strength + below * (1 - strength)) :=
    sum.ge (isValue_exact strength) (by linarith [share.nonneg])
  have whole := rounds_add unit.finite unit.complement.finite
  refine ⟨.of_bounds sum.defined (unit.nonneg.trans above) ?_, above⟩
  rw [← unit.exact_add_complement]
  exact sum.exact_le_exact whole (by linarith [exact_share_le unit other])

/-- An opaque color stays opaque. -/
theorem opacity_of_opaque (unit : IsUnit strength) : strength + 1 * (1 - strength) = 1 := by
  have share := rounds_mul (x := (1 : Float32)) rfl unit.complement.finite
  rw [exact_single_one, one_mul] at share
  have kept := share.exact_eq_of_isValue (isValue_exact _)
  have opacity := isUnit_opacity unit isUnit_one
  have sum := rounds_add unit.finite (isUnit_one.mul unit.complement).finite
  have whole := rounds_add unit.finite unit.complement.finite
  refine eq_one_of_exact_eq opacity.1.finite ?_
  rw [sum.exact_eq, kept, ← whole.exact_eq, unit.exact_add_complement]

/-- A channel of two colors before it is divided by their opacity: it is made
of smaller parts. -/
theorem weighted_spec {above under : Float32} (unit : IsUnit strength) (other : IsUnit below)
    (first : IsUnit above) (second : IsUnit under) :
    IsUnit (above * strength + under * below * (1 - strength)) ∧
      exact (above * strength + under * below * (1 - strength)) ≤
        exact (strength + below * (1 - strength)) := by
  have rest := unit.complement
  have upper : exact (above * strength) ≤ exact strength :=
    (rounds_mul first.finite unit.finite).le (isValue_exact strength)
      (mul_le_of_le_one_left unit.nonneg first.le_one)
  have thinned : exact (under * below) ≤ exact below :=
    (rounds_mul second.finite other.finite).le (isValue_exact below)
      (mul_le_of_le_one_left other.nonneg second.le_one)
  have lower : exact (under * below * (1 - strength)) ≤ exact (below * (1 - strength)) :=
    (rounds_mul (second.mul other).finite rest.finite).exact_le_exact
      (rounds_mul other.finite rest.finite) (mul_le_mul_of_nonneg_right thinned rest.nonneg)
  have sum := rounds_add (first.mul unit).finite ((second.mul other).mul rest).finite
  have opacity := rounds_add unit.finite (other.mul rest).finite
  have nonneg : 0 ≤ exact (above * strength + under * below * (1 - strength)) :=
    sum.ge Exact.Representable.zero
      (add_nonneg (first.mul unit).nonneg ((second.mul other).mul rest).nonneg)
  have most := sum.exact_le_exact opacity (add_le_add upper lower)
  exact ⟨.of_bounds sum.defined nonneg (most.trans (isUnit_opacity unit other).1.le_one), most⟩

end Composite

/-- Laying a color over another leads nothing out of the interval, and leaves an
opaque color opaque. -/
theorem composite_spec {color below : Rgba} {strength : Float32} (normal : color.rgb.IsNormal)
    (unit : IsUnit strength) (positive : 0 < exact strength) (other : below.IsNormal) :
    (composite color strength below).IsNormal ∧
      (below.alpha = 1 -> (composite color strength below).alpha = 1) := by
  have opacity := isUnit_opacity unit other.alpha
  have some := positive.trans_le opacity.2
  have left : ¬strength + below.alpha * (1 - strength) ≤ 0 := by
    rw [le_iff, exact_single_zero]
    exact fun ordered => ordered.2.2.not_gt some
  have channel {above under : Float32} (first : IsUnit above) (second : IsUnit under) :
      IsUnit ((above * strength + under * below.alpha * (1 - strength)) /
        (strength + below.alpha * (1 - strength))) := by
    have weighted := weighted_spec unit other.alpha first second
    exact (rounds_div weighted.1.finite opacity.1.finite some.ne').isUnit
      (div_nonneg weighted.1.nonneg some.le) (div_le_one_of_le₀ weighted.2 some.le)
  unfold composite
  dsimp only
  rw [if_neg left]
  refine ⟨⟨⟨?_, ?_, ?_⟩, opacity.1⟩, fun solid => ?_⟩
  · exact channel normal.red other.rgb.red
  · exact channel normal.green other.rgb.green
  · exact channel normal.blue other.rgb.blue
  · change strength + below.alpha * (1 - strength) = 1
    rw [solid]
    exact opacity_of_opaque unit

end PixelSurface

/-! ## Strokes of normal colors -/

namespace Stroke

/-- A normal color that can be seen covers some of the pixel. -/
structure IsNormal (stroke : Stroke) : Prop where
  color : stroke.color.IsNormal
  visible : 0 < exact stroke.color.alpha
  covers : 0 < stroke.coverage

variable {stroke : Stroke}

/-- Neither factor is zero, so the strength is a number even if the coverage is
infinite. -/
theorem IsNormal.isUnit_strength (normal : stroke.IsNormal) :
    IsUnit (Single.clampUnit (stroke.color.alpha * stroke.coverage)) := by
  have finite := normal.color.alpha.finite
  have covers := (lt_iff 0 stroke.coverage).mp normal.covers
  rw [exact_single_zero] at covers
  refine (clampUnit_spec ?_).1
  by_cases inside : IsFinite stroke.coverage
  · exact (rounds_mul finite inside).defined
  · rw [eq_endless covers.2.1 inside covers.2.2.le, mul_endless finite normal.visible]
    rfl

theorem IsNormal.mixed (normal : stroke.IsNormal) (marks : stroke.Marks) {below : Rgba}
    (other : below.IsNormal) :
    (stroke.mixed below).IsNormal ∧ (below.alpha = 1 -> (stroke.mixed below).alpha = 1) := by
  have unit := normal.isUnit_strength
  exact PixelSurface.composite_spec normal.color.rgb unit (unit.exact_pos marks) other

end Stroke

namespace DrawCommand

/-- The colors of a command, and the opacities that it lays them with, are
between 0 and 1.  Its geometry is arbitrary. -/
def IsNormal : DrawCommand -> Prop
  | .resize _ => True
  | .clear color => color.IsNormal
  | .circle _ _ color => color.IsNormal
  | .gradient _ _ color => color.IsNormal
  | .vignette shade => shade.color.rgb.IsNormal ∧ IsUnit shade.strength
  | .lightBeam beam => beam.color.rgb.IsNormal ∧ IsUnit beam.alpha

/-- A drawing that is laid over what is there. -/
def isLaidOver : DrawCommand -> Bool
  | .resize _ => false
  | .clear _ => false
  | _ => true

end DrawCommand

namespace PixelSurface

variable {surface next : PixelSurface}

theorem isNormal_of_mem_box {box : Box} {color : Rgba} {coverage : Point Float32 -> Float32}
    {stroke : Stroke} (normal : color.IsNormal) (visible : 0 < exact color.alpha)
    (member : stroke ∈ box.strokes color coverage) : stroke.IsNormal := by
  rcases Box.mem_strokes.mp member with ⟨-, same, covers⟩
  have color_eq : stroke.color = color := congrArg Stroke.color same
  exact ⟨color_eq ▸ normal, color_eq ▸ visible, covers⟩

theorem isNormal_of_mem_disc {center : Point Float32} {radius reach : Float32} {color : Rgba}
    {coverage : Point Float32 -> Float32} {stroke : Stroke} (normal : color.IsNormal)
    (member : stroke ∈ surface.discStrokes center radius reach color coverage) :
    stroke.IsNormal := by
  unfold discStrokes at member
  split_ifs at member with seen
  · have visible : 0 < exact color.alpha := by
      unfold isVisibleDisc at seen
      rw [Bool.and_eq_true, Bool.not_eq_true', Bool.not_eq_true', decide_eq_false_iff_not,
        decide_eq_false_iff_not] at seen
      exact normal.alpha.exact_pos seen.2
    cases clipped : surface.boxAround? center reach with
    | none => rw [clipped] at member; cases member
    | some box => rw [clipped] at member; exact isNormal_of_mem_box normal visible member
  · cases member

theorem isNormal_of_mem_strokes {command : DrawCommand} {stroke : Stroke}
    (normal : command.IsNormal) (member : stroke ∈ surface.strokes command) :
    stroke.IsNormal := by
  -- The opacity of these two is moved into the interval, where it is already.
  have visible {color : Rgb} {alpha : Float32} (unit : IsUnit alpha) (notBelow : ¬alpha ≤ 0) :
      0 < exact (color.withAlpha alpha).alpha := by
    have moved := (clampUnit_spec unit.finite.isDefined).2
    rw [min_eq_right unit.le_one, max_eq_right unit.nonneg] at moved
    exact (unit.exact_pos notBelow).trans_eq moved.symm
  cases command with
  | resize => cases member
  | clear => cases member
  | circle center radius color => exact isNormal_of_mem_disc normal member
  | gradient center radius color => exact isNormal_of_mem_disc normal member
  | vignette vignette =>
      unfold strokes at member
      dsimp only at member
      split_ifs at member with nothing
      · cases member
      · exact isNormal_of_mem_box (normal.1.withAlpha normal.2) (visible normal.2 nothing) member
  | lightBeam beam =>
      unfold strokes at member
      dsimp only at member
      split_ifs at member with nothing
      · cases member
      · exact isNormal_of_mem_box (normal.1.withAlpha normal.2)
          (visible normal.2 (not_or.mp nothing).2) member

/-! ## Surfaces -/

/-- Every pixel has a normal color. -/
def IsNormal (surface : PixelSurface) : Prop :=
  forall color, color ∈ surface.pixels -> color.IsNormal

/-- The opaque pixels of a surface are opaque on the next one. -/
def StaysOpaque (surface next : PixelSurface) : Prop :=
  forall (place : ℕ) (before : Rgba), surface.pixels[place]? = some before -> before.alpha = 1 ->
    Exists fun after => next.pixels[place]? = some after ∧ after.alpha = 1

theorem StaysOpaque.refl (surface : PixelSurface) : StaysOpaque surface surface :=
  fun _ before found solid => ⟨before, found, solid⟩

theorem StaysOpaque.trans {first second third : PixelSurface} (earlier : StaysOpaque first second)
    (later : StaysOpaque second third) : StaysOpaque first third := by
  intro place before found solid
  rcases earlier place before found solid with ⟨between, kept, still⟩
  exact later place between kept still

theorem isNormal_replicate (size : PhysicalSize) {count : ℕ} {color : Rgba}
    (normal : color.IsNormal) : IsNormal ⟨size, Array.replicate count color⟩ := by
  intro other member
  rw [(Array.mem_replicate.mp member).2]
  exact normal

theorem lay_normal {stroke : Stroke} (surfaceNormal : surface.IsNormal) (normal : stroke.IsNormal)
    (laid : stroke.lay surface = .ok next) : next.IsNormal ∧ StaysOpaque surface next := by
  rcases stroke.lay_cases surface with ⟨-, kept⟩ | ⟨marks, inside, changed⟩ | ⟨-, -, refused⟩
  · cases laid.symm.trans kept
    exact ⟨surfaceNormal, .refl surface⟩
  · cases laid.symm.trans changed
    have mixed := normal.mixed marks (surfaceNormal _ (Array.getElem_mem inside))
    constructor
    · intro color member
      rcases Array.mem_or_eq_of_mem_set (w := inside) member with other | rfl
      · exact surfaceNormal color other
      · exact mixed.1
    · intro place before found solid
      by_cases on : stroke.index surface.size = place
      · subst on
        rw [Array.getElem?_eq_getElem inside] at found
        cases found
        exact ⟨_, Array.getElem?_set_self inside, mixed.2 solid⟩
      · exact ⟨before, (Array.getElem?_set_ne inside on).trans found, solid⟩
  · cases laid.symm.trans refused

theorem layAll_normal {strokes : List Stroke} (surfaceNormal : surface.IsNormal)
    (normal : forall stroke, stroke ∈ strokes -> stroke.IsNormal)
    (laid : surface.layAll strokes = .ok next) : next.IsNormal ∧ StaysOpaque surface next := by
  induction strokes generalizing surface with
  | nil =>
      cases laid
      exact ⟨surfaceNormal, .refl _⟩
  | cons stroke strokes ih =>
      rw [layAll, List.foldlM_cons, Outcome.bind_eq_ok] at laid
      rcases laid with ⟨between, first, rest⟩
      have one := lay_normal surfaceNormal (normal stroke List.mem_cons_self) first
      have others := ih one.1 (fun other member => normal other (List.mem_cons_of_mem stroke member))
        rest
      exact ⟨others.1, one.2.trans others.2⟩

/-- A command with normal colors leaves a normal surface, and what is laid over
the pixels makes none of them translucent. -/
theorem draw_normal {command : DrawCommand} (surfaceNormal : surface.IsNormal)
    (normal : command.IsNormal) (drawn : Surface.draw command surface = .ok next) :
    next.IsNormal ∧ (command.isLaidOver = true -> StaysOpaque surface next) := by
  rw [draw_eq] at drawn
  cases command with
  | resize size =>
      refine ⟨?_, nofun⟩
      change resize size surface = .ok next at drawn
      unfold resize at drawn
      split_ifs at drawn
      · cases drawn
        exact surfaceNormal
      · rcases ofSize_eq_ok.mp drawn with ⟨-, rfl⟩
        exact isNormal_replicate _ Rgba.isNormal_transparent
  | clear color =>
      refine ⟨?_, nofun⟩
      cases drawn
      exact isNormal_replicate _ (normal.rgb.withAlpha normal.alpha)
  | _ =>
      have laid := layAll_normal surfaceNormal (fun _ => isNormal_of_mem_strokes normal) drawn
      exact ⟨laid.1, fun _ => laid.2⟩

theorem drawAll_normal {commands : List DrawCommand} (surfaceNormal : surface.IsNormal)
    (normal : forall command, command ∈ commands -> command.IsNormal)
    (drawn : Surface.drawAll commands surface = .ok next) : next.IsNormal ∧
      ((forall command, command ∈ commands -> command.isLaidOver = true) ->
        StaysOpaque surface next) := by
  induction commands generalizing surface with
  | nil =>
      cases drawn
      exact ⟨surfaceNormal, fun _ => .refl _⟩
  | cons command commands ih =>
      rw [Surface.drawAll_cons, Outcome.bind_eq_ok] at drawn
      rcases drawn with ⟨between, first, rest⟩
      have one := draw_normal surfaceNormal (normal command List.mem_cons_self) first
      have others := ih one.1 (fun other member => normal other (List.mem_cons_of_mem command member))
        rest
      refine ⟨others.1, fun laid => (one.2 (laid command List.mem_cons_self)).trans (others.2 ?_)⟩
      exact fun other member => laid other (List.mem_cons_of_mem command member)

/-- Commands with normal colors, on a surface with normal colors, leave normal
colors, and so does every part of them.  A pixel that was opaque in between is
opaque in the end if everything after that was laid over it. -/
theorem drawAll_keeps_normal {commands : List DrawCommand} {last : PixelSurface}
    (surfaceNormal : surface.IsNormal)
    (normal : forall command, command ∈ commands -> command.IsNormal)
    (drawn : Surface.drawAll commands surface = .ok last) :
    last.IsNormal ∧ forall earlier later, commands = earlier ++ later ->
      Exists fun between => Surface.drawAll earlier surface = .ok between ∧ between.IsNormal ∧
        ((forall command, command ∈ later -> command.isLaidOver = true) ->
          StaysOpaque between last) := by
  refine ⟨(drawAll_normal surfaceNormal normal drawn).1, ?_⟩
  rintro earlier later rfl
  rw [Surface.drawAll_append, Outcome.bind_eq_ok] at drawn
  rcases drawn with ⟨between, first, rest⟩
  have before := drawAll_normal surfaceNormal
    (fun command member => normal command (List.mem_append_left later member)) first
  have after := drawAll_normal before.1
    (fun command member => normal command (List.mem_append_right earlier member)) rest
  exact ⟨between, first, before.1, after.2⟩

/-- An opaque pixel and a transparent one. -/
def halfOpaque : PixelSurface := ⟨⟨2, 1⟩, #[⟨1, 0.5, 0, 1⟩, .transparent]⟩

/-- One drawing of each kind. -/
def washes : List DrawCommand :=
  [.circle ⟨0.5, 0.5⟩ 0.25 ⟨0, 0, 1, 0.5⟩, .gradient ⟨1, 0.5⟩ 3 ⟨0.25, 1, 0.5, 0.125⟩,
    .vignette {}, .lightBeam {}]

/-- The opaque pixel is still opaque under all of them. -/
theorem drawAll_washes_keeps_normal : Exists fun last =>
    Surface.drawAll washes halfOpaque = .ok last ∧ last.IsNormal ∧
      Exists fun after => last.pixels[0]? = some after ∧ after.alpha = 1 := by
  have sound : halfOpaque.IsSound := ⟨by decide, by decide, by decide, rfl⟩
  have clips : halfOpaque.size.ClipsDown := PhysicalSize.clipsDown_of_le (by decide) (by decide)
  have normal : halfOpaque.IsNormal := by
    intro color member
    rcases List.mem_pair.mp (Array.mem_def.mp member) with rfl | rfl
    · exact (Rgba.isNormal_iff _).mp (by decide)
    · exact Rgba.isNormal_transparent
  have colors : forall command, command ∈ washes -> command.IsNormal := by
    unfold washes
    simp only [List.forall_mem_cons, List.not_mem_nil, false_imp_iff, implies_true, and_true]
    refine ⟨?_, ?_, ?_, ?_⟩
    · exact (Rgba.isNormal_iff _).mp (by decide)
    · exact (Rgba.isNormal_iff _).mp (by decide)
    · exact ⟨(Rgb.isNormalized_iff _).mp (by decide), (isUnit_iff _).mp (by decide)⟩
    · exact ⟨(Rgb.isNormalized_iff _).mp (by decide), (isUnit_iff _).mp (by decide)⟩
  have drawings : forall command, command ∈ washes -> command.isDrawing = true := by decide
  rcases drawAll_ok sound drawings fun _ _ _ => clips with ⟨last, drawn⟩
  have kept := drawAll_keeps_normal normal colors drawn
  rcases kept.2 [] washes rfl with ⟨between, nothing, -, stays⟩
  cases nothing
  exact ⟨last, drawn, kept.1, stays (by decide) 0 _ rfl rfl⟩

end PixelSurface

end Starfield
