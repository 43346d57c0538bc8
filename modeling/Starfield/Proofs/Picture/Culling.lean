import Starfield.Proofs.Particle.History
import Starfield.Proofs.Picture.Edges
import Starfield.Proofs.Picture.Repainting
import Starfield.Proofs.Surface.Shining

namespace Starfield

open PixelSurface (Misses pixelCenter_le solidWhite)

/-!
# Culled discs

A disc is culled by its place in logical pixels and painted in physical ones.
Before the near edges of a view nothing is lost by that.  Behind the far edges
the sides in physical pixels are rounded: a side that is rounded up has its
last pixel partly behind the view, and if the scaled side ends in the middle of
that pixel, a disc that stands on the edge is culled and covers it.
-/

namespace PixelSurface

/-- A drawing without strokes can be left out of a run. -/
theorem drawAll_insert {before after : List DrawCommand} {command : DrawCommand}
    {surface : PixelSurface} (sound : surface.IsSound)
    (drawings : forall other, other ∈ before -> other.isDrawing = true)
    (nothing : forall next : PixelSurface, next.IsSound -> next.size = surface.size ->
      Surface.draw command next = .ok next) :
    Surface.drawAll (before ++ command :: after) surface =
      Surface.drawAll (before ++ after) surface := by
  rw [Surface.drawAll_append, Surface.drawAll_append]
  cases drawn : Surface.drawAll before surface with
  | error fault => rfl
  | ok next =>
      have shape := sameShape_drawAll drawings drawn
      rw [Outcome.ok_bind, Outcome.ok_bind, Surface.drawAll_cons,
        nothing next (sound.of_sameShape shape) shape.size_eq, Outcome.ok_bind]

end PixelSurface

namespace Frame

/-- Everything that is drawn over the nebulae. -/
def overNebulae (frame : Frame) : List DrawCommand :=
  frame.stars.flatMap (starDrawings (narrow frame.viewport.pixelRatio)) ++
    (frame.overlay.vignette.toList.map .vignette ++ frame.overlay.lightBeam.toList.map .lightBeam)

theorem details_eq (frame : Frame) : frame.details =
    frame.nebulae.map (gradientDrawing (narrow frame.viewport.pixelRatio)) ++ frame.overNebulae :=
  rfl

end Frame

namespace GradientDisc

/-- No picture of the view changes when the disc is inserted among the nebulae
of its frame. -/
def Invisible (view : Viewport) (disc : GradientDisc) : Prop :=
  forall (frame : Frame) (before after : List GradientDisc) (surface : PixelSurface),
    frame.viewport = view -> frame.nebulae = before ++ after -> surface.IsSound ->
    ({ frame with nebulae := before ++ disc :: after } : Frame).paint surface = frame.paint surface

/-- A disc with finite numbers and a radius that is not negative. -/
structure IsSound (disc : GradientDisc) : Prop where
  column : IsFinite disc.center.x
  row : IsFinite disc.center.y
  radius : IsFinite disc.radius
  nonneg : 0 ≤ disc.radius

variable {view : Viewport} {disc : GradientDisc}

/-- A frame that cannot be painted cannot be painted with the disc either. -/
theorem invisible_of_area (large : ¬view.physicalSize.area < UInt32.size) : disc.Invisible view := by
  rintro frame before after surface rfl - sound
  rw [Frame.paint_sound _ sound, Frame.paint_sound _ sound]
  exact (if_neg large).trans (if_neg large).symm

theorem invisible_of_strokes (nothing : forall surface : PixelSurface,
    surface.size = view.physicalSize ->
      surface.strokes (Frame.gradientDrawing (narrow view.pixelRatio) disc) = []) :
    disc.Invisible view := by
  by_cases fits : view.physicalSize.area < UInt32.size
  · rintro frame before after surface rfl split sound
    rw [Frame.paint_sound _ sound, Frame.paint_sound _ sound]
    refine (if_pos fits).trans (Eq.trans ?_ (if_pos fits).symm)
    rw [Frame.details_eq frame, split, List.map_append, List.append_assoc]
    change Surface.drawAll ((before ++ disc :: after).map (Frame.gradientDrawing
      (narrow frame.viewport.pixelRatio)) ++ frame.overNebulae) frame.canvas = _
    rw [List.map_append, List.map_cons, List.append_assoc, List.cons_append]
    refine PixelSurface.drawAll_insert (Frame.isSound_canvas fits) (fun other member => ?_)
      fun next _ size => ?_
    · rcases List.mem_map.mp member with ⟨_, -, rfl⟩
      rfl
    · rw [PixelSurface.draw_eq]
      change next.layAll (next.strokes _) = _
      rw [nothing next size]
      rfl
  · exact invisible_of_area fits

end GradientDisc

/-! ## Discs outside of a view -/

namespace Viewport

/-- A ratio that is a power of two is the scale of the drawings. -/
theorem scale_of_power {view : Viewport} {count : ℕ} (power : exact view.pixelRatio = 2 ^ count)
    (fits : view.physicalSize.area < UInt32.size) : count < 32 ∧
      IsFinite (narrow view.pixelRatio) ∧ exact (narrow view.pixelRatio) = 2 ^ count := by
  rcases scale_spec fits with ⟨scaleFinite, narrowed, -⟩
  have bound := pixelRatio_lt fits
  rw [power] at bound narrowed
  have small : count < 32 := (pow_lt_pow_iff_right₀ one_lt_two).mp bound
  exact ⟨small, scaleFinite,
    narrowed.exact_eq_of_isValue (isValue_two_pow (small.le.trans (by decide)))⟩

/-- The view culls nothing that could be seen. -/
def CullsInvisibly (view : Viewport) : Prop :=
  forall disc : GradientDisc, disc.IsSound -> disc.intersects view = false -> disc.Invisible view

/-- On one side, the scaled side ends so far behind the middle of its last pixel
that no rounding takes a disc with a center within the reach across it. -/
def Clears (side : Float32) (ratio : Float) (reach : ℚ) : Prop :=
  (physicalSide side ratio).toNat ≤ 2 ^ 23 ∧
    (physicalSide side ratio).toNat - 1 / 2 + reach * exact ratio / 2 ^ 21 ≤ exact side * exact ratio

end Viewport

namespace GradientDisc

namespace IsSound

variable {view : Viewport} {disc : GradientDisc} (sound : disc.IsSound)

include sound

theorem exact_nonneg : 0 ≤ exact disc.radius := by
  have ordered := ((le_iff _ _).mp sound.nonneg).2.2
  rwa [exact_single_zero] at ordered

theorem invisible_of_misses (misses : view.physicalSize.area < UInt32.size ->
    Misses (disc.center.x * narrow view.pixelRatio) (disc.radius * narrow view.pixelRatio)
        view.physicalSize.width ∨
      Misses (disc.center.y * narrow view.pixelRatio) (disc.radius * narrow view.pixelRatio)
        view.physicalSize.height) : disc.Invisible view := by
  by_cases fits : view.physicalSize.area < UInt32.size
  · have scaleFinite := (Viewport.scale_spec fits).1
    have defined : PixelSurface.IsDefinedDisc (disc.center.scale (narrow view.pixelRatio))
        (disc.radius * narrow view.pixelRatio) :=
      ⟨(rounds_mul sound.column scaleFinite).defined, (rounds_mul sound.row scaleFinite).defined,
        (rounds_mul sound.radius scaleFinite).defined⟩
    refine invisible_of_strokes fun surface size_eq => ?_
    unfold Frame.gradientDrawing
    refine PixelSurface.strokes_gradient_eq_nil defined ?_ disc.color
    rw [size_eq]
    exact misses fits
  · exact invisible_of_area fits

/-- The four ways of being culled. -/
theorem edges_of_culled (outside : disc.intersects view = false) :
    (¬0 < disc.center.x + disc.radius ∨ ¬0 < disc.center.y + disc.radius) ∨
      exact view.width ≤ exact (disc.center.x - disc.radius) ∨
      exact view.height ≤ exact (disc.center.y - disc.radius) := by
  have behind {center side : Float32} (finite : IsFinite center) (sideFinite : IsFinite side)
      (apart : ¬center - disc.radius < side) : exact side ≤ exact (center - disc.radius) := by
    rw [not_lt_iff_le (rounds_sub finite sound.radius).defined sideFinite.isDefined, le_iff] at apart
    exact apart.2.2
  unfold intersects at outside
  simp only [Bool.and_eq_false_iff, decide_eq_false_iff_not] at outside
  rcases outside with ((left | above) | right) | below
  · exact Or.inl (Or.inl left)
  · exact Or.inl (Or.inr above)
  · exact Or.inr (Or.inl (behind sound.column view.isFinite_width right))
  · exact Or.inr (Or.inr (behind sound.row view.isFinite_height below))

/-- Before a near edge nothing is culled that could be seen. -/
theorem invisible_of_before
    (before : ¬0 < disc.center.x + disc.radius ∨ ¬0 < disc.center.y + disc.radius) :
    disc.Invisible view := by
  refine sound.invisible_of_misses fun fits => ?_
  rcases Viewport.scale_spec fits with ⟨scaleFinite, -, least⟩
  have off {center : Float32} (finite : IsFinite center) (below : ¬0 < center + disc.radius) (n : ℕ) :
      StandsOff (center * narrow view.pixelRatio) (disc.radius * narrow view.pixelRatio)
        ((UInt32.ofNat n).toFloat32 + 0.5) := by
    have placed := (PixelSurface.half_le_pixelCenter n n).1
    exact standsOff_before finite sound.radius scaleFinite (by linarith)
      (le_trans (by norm_num) placed) (sum_nonpos_of_not_pos finite sound.radius below)
  rcases before with left | above
  · exact Or.inl (Or.inl fun n _ => off sound.column left n)
  · exact Or.inr (Or.inl fun n _ => off sound.row above n)

/-- Scaled by a power of two, nothing is culled that could be seen, unless a side
ends half-way. -/
theorem invisible_of_power {count : ℕ} (power : exact view.pixelRatio = 2 ^ count)
    (clear : view.physicalSize.area < UInt32.size ->
      ¬Viewport.EndsHalfWay view.width view.pixelRatio ∧
        ¬Viewport.EndsHalfWay view.height view.pixelRatio)
    (outside : disc.intersects view = false) : disc.Invisible view := by
  rcases sound.edges_of_culled outside with before | behind
  · exact sound.invisible_of_before before
  refine sound.invisible_of_misses fun fits => ?_
  rcases Viewport.scale_of_power power fits with ⟨small, scaleFinite, scalePower⟩
  rcases behind with right | below
  · exact Or.inl (misses_of_power sound.column sound.radius sound.exact_nonneg scaleFinite scalePower
      view.isFinite_pixelRatio power small view.isFinite_width view.one_le_exact_width (clear fits).1
      right)
  · exact Or.inr (misses_of_power sound.row sound.radius sound.exact_nonneg scaleFinite scalePower
      view.isFinite_pixelRatio power small view.isFinite_height view.one_le_exact_height
      (clear fits).2 below)

/-- Scaled by any other ratio, nothing is culled that could be seen, if the
sides clear the centers. -/
theorem invisible_of_reach {reach : ℚ} (width : Viewport.Clears view.width view.pixelRatio reach)
    (height : Viewport.Clears view.height view.pixelRatio reach)
    (near : exact disc.center.x ≤ reach ∧ exact disc.center.y ≤ reach)
    (outside : disc.intersects view = false) : disc.Invisible view := by
  rcases sound.edges_of_culled outside with before | behind
  · exact sound.invisible_of_before before
  refine sound.invisible_of_misses fun fits => ?_
  rcases Viewport.scale_spec fits with ⟨scaleFinite, narrowed, -⟩
  have off {center side : Float32} (finite : IsFinite center) (long : 1 ≤ exact side)
      (clears : Viewport.Clears side view.pixelRatio reach)
      (edge : exact side ≤ exact (center - disc.radius)) (within : exact center ≤ reach) :
      Misses (center * narrow view.pixelRatio) (disc.radius * narrow view.pixelRatio)
        (Viewport.physicalSide side view.pixelRatio) := by
    have first : (1 : ℚ) ≤ (Viewport.physicalSide side view.pixelRatio).toNat := by
      exact_mod_cast Viewport.physicalSide_pos side view.pixelRatio
    exact Or.inl fun n bounded => standsOff_behind fun inside =>
      (pixelCenter_le clears.1 bounded).trans (behind_of_reach finite sound.radius sound.exact_nonneg
        scaleFinite narrowed view.one_le_exact_pixelRatio long edge within (by linarith) clears.2
        inside)
  rcases behind with right | below
  · exact Or.inl (off sound.column view.one_le_exact_width width right near.1)
  · exact Or.inr (off sound.row view.one_le_exact_height height below near.2)

end IsSound

/-- Nothing is seen of a disc with numbers that are not finite, unless its radius
is endless: then it is never culled. -/
theorem invisible_of_not_isSound {view : Viewport} {disc : GradientDisc} (unsound : ¬disc.IsSound)
    (outside : disc.intersects view = false) : disc.Invisible view := by
  by_cases fits : view.physicalSize.area < UInt32.size
  swap
  · exact invisible_of_area fits
  rcases Viewport.scale_spec fits with ⟨scaleFinite, -, least⟩
  refine invisible_of_strokes fun surface _ => ?_
  unfold Frame.gradientDrawing
  by_cases defined : PixelSurface.IsDefinedDisc (disc.center.scale (narrow view.pixelRatio))
    (disc.radius * narrow view.pixelRatio)
  swap
  · exact PixelSurface.strokes_gradient_of_not_covered
      (PixelSurface.not_covered_of_undefined defined) disc.color
  by_cases column : IsFinite disc.center.x
  swap
  · have nowhere : ¬IsFinite (disc.center.x * narrow view.pixelRatio) :=
      fun inside => column (isFinite_operands_of_mul inside).1
    exact PixelSurface.strokes_gradient_eq_nil defined
      (Or.inl (Or.inl fun _ _ inside => absurd inside nowhere)) disc.color
  by_cases row : IsFinite disc.center.y
  swap
  · have nowhere : ¬IsFinite (disc.center.y * narrow view.pixelRatio) :=
      fun inside => row (isFinite_operands_of_mul inside).1
    exact PixelSurface.strokes_gradient_eq_nil defined
      (Or.inr (Or.inl fun _ _ inside => absurd inside nowhere)) disc.color
  have some : IsDefined disc.radius := by
    by_contra lost
    exact not_isDefined_mul lost _ defined.radius
  by_cases nonneg : 0 ≤ exact disc.radius
  · have endlessly : disc.radius = endless := by
      refine eq_endless some (fun finite => unsound ⟨column, row, finite, ?_⟩) nonneg
      rw [le_iff, exact_single_zero]
      exact ⟨rfl, some, nonneg⟩
    have positive : (0 : Float32) < endless := by decide
    unfold intersects at outside
    rw [endlessly, add_endless column, add_endless row, sub_endless column, sub_endless row,
      decide_eq_true positive, decide_eq_true (neg_endless_lt view.isFinite_width),
      decide_eq_true (neg_endless_lt view.isFinite_height)] at outside
    cases outside
  · exact PixelSurface.strokes_gradient_of_le_zero
      (mul_le_zero some (not_le.mp nonneg).le scaleFinite (by linarith)) _ disc.color

/-! ## A disc that is culled and seen -/

/-- Nothing is drawn over a transparent background. -/
def blank (view : Viewport) : Frame where
  viewport := view
  timestampMs := 0

theorem layAll_of_invisible {view : Viewport} {disc : GradientDisc}
    (fits : view.physicalSize.area < UInt32.size) (invisible : disc.Invisible view) :
    (blank view).canvas.layAll ((blank view).canvas.strokes
      (Frame.gradientDrawing (narrow view.pixelRatio) disc)) = .ok (blank view).canvas := by
  have sound : (blank view).canvas.IsSound := Frame.isSound_canvas fits
  have painted := invisible (blank view) [] [] (blank view).canvas rfl rfl sound
  rw [Frame.paint_sound _ sound, Frame.paint_sound _ sound] at painted
  have drawn := ((if_pos fits).symm.trans painted).trans (if_pos fits)
  have run : Surface.drawAll [Frame.gradientDrawing (narrow view.pixelRatio) disc]
      (blank view).canvas = Surface.drawAll [] (blank view).canvas := drawn
  rw [Surface.drawAll_singleton, PixelSurface.draw_eq] at run
  exact run

/-- An opaque disc that ends up on the center of a pixel is seen. -/
theorem not_invisible_of_center {view : Viewport} {disc : GradientDisc}
    (fits : view.physicalSize.area < UInt32.size) {x y : ℕ} (few : x < 2 ^ 23 ∧ y < 2 ^ 23)
    (inside : x < view.physicalSize.width.toNat ∧ y < view.physicalSize.height.toNat)
    (column : IsFinite (disc.center.x * narrow view.pixelRatio) ∧
      exact (disc.center.x * narrow view.pixelRatio) = x + 1 / 2)
    (row : IsFinite (disc.center.y * narrow view.pixelRatio) ∧
      exact (disc.center.y * narrow view.pixelRatio) = y + 1 / 2)
    (finite : IsFinite (disc.radius * narrow view.pixelRatio))
    (positive : 0 < exact (disc.radius * narrow view.pixelRatio))
    (solid : disc.color.alpha = 1) : ¬disc.Invisible view := by
  intro invisible
  have laid := layAll_of_invisible fits invisible
  unfold Frame.gradientDrawing at laid
  set center := disc.center.scale (narrow view.pixelRatio) with center_eq
  set radius := disc.radius * narrow view.pixelRatio with radius_eq
  have place : IsFinite center.x ∧ exact center.x = x + 1 / 2 := column
  have line : IsFinite center.y ∧ exact center.y = y + 1 / 2 := row
  have bright (stroke : Stroke) (member : stroke ∈ (blank view).canvas.strokes
      (.gradient center radius disc.color)) : stroke.IsBright :=
    PixelSurface.isBright_of_mem_gradient solid place.1 line.1 finite positive member
  have centered : Exists fun stroke : Stroke => stroke ∈ (blank view).canvas.strokes
      (.gradient center radius disc.color) ∧ _ :=
    PixelSurface.exists_stroke_of_center solid few.1 few.2 inside place line finite positive
  rcases centered with ⟨stroke, member, index_eq⟩
  have pixel := PixelSurface.getElem?_layAll (fun other found => (bright other found).marks) laid
    (stroke.index (blank view).canvas.size)
  have below : stroke.index (blank view).canvas.size < view.physicalSize.area := by
    have lies : (⟨x, y, .transparent, 0⟩ : Stroke).LiesIn view.physicalSize := inside
    rw [index_eq]
    exact Stroke.index_lt_area lies
  have background : (blank view).canvas.pixels[stroke.index (blank view).canvas.size]? =
      some (Rgba.transparent.withAlpha Rgba.transparent.alpha) :=
    Array.getElem?_replicate.trans (if_pos below)
  rw [background, Option.map_some, Option.some_inj] at pixel
  have nothing : exact (Rgba.transparent.withAlpha Rgba.transparent.alpha).alpha = 0 := rfl
  have plain : (Rgba.transparent.withAlpha Rgba.transparent.alpha).IsPlain := ⟨rfl, nothing.ge⟩
  have touched : (Rgba.transparent.withAlpha Rgba.transparent.alpha).Shows ∨
      Exists fun other : Stroke => other ∈ (blank view).canvas.strokes
        (.gradient center radius disc.color) ∧ other.index (blank view).canvas.size =
          stroke.index (blank view).canvas.size := Or.inr ⟨stroke, member, rfl⟩
  have shows := PixelSurface.shows_foldl bright plain touched
  rw [← pixel] at shows
  exact absurd nothing shows.2.ne'

/-- A white speck. -/
def speckAt (center : Point Float32) : GradientDisc :=
  ⟨center, speck, solidWhite⟩

theorem isSound_speckAt {center : Point Float32} (column : IsFinite center.x)
    (row : IsFinite center.y) : (speckAt center).IsSound :=
  have nonneg : 0 ≤ speck := by decide
  ⟨column, row, isFinite_speck, nonneg⟩

end GradientDisc

namespace Viewport

open GradientDisc (speckAt)

variable {view : Viewport}

/-- If everything that is culled is invisible, no side ends half-way: a speck on
its edge would be culled and seen. -/
theorem CullsInvisibly.not_endsHalfWay (culls : view.CullsInvisibly) {count : ℕ}
    (power : exact view.pixelRatio = 2 ^ count) (fits : view.physicalSize.area < UInt32.size) :
    ¬EndsHalfWay view.width view.pixelRatio ∧ ¬EndsHalfWay view.height view.pixelRatio := by
  rcases scale_of_power power fits with ⟨small, scaleFinite, scalePower⟩
  have first := scaled_first_middle scaleFinite scalePower small
  have reach := scaled_speck scaleFinite scalePower small
  have culled {side : Float32} (finite : IsFinite side) (long : 1 ≤ exact side) :
      ¬side - speck < side := by
    rw [lt_iff, exact_sub_speck finite long]
    exact fun ordered => lt_irrefl _ ordered.2.2
  constructor
  · intro half
    have last := scaled_side_of_half view.isFinite_width scaleFinite scalePower power half
    have outside : (speckAt ⟨view.width, 0.5 / narrow view.pixelRatio⟩).intersects view = false := by
      unfold GradientDisc.intersects
      rw [Bool.and_eq_false_iff, Bool.and_eq_false_iff, decide_eq_false_iff_not (p := _ < view.width)]
      exact Or.inl (Or.inr (culled view.isFinite_width view.one_le_exact_width))
    have inside := Nat.sub_lt (physicalSide_pos view.width view.pixelRatio) one_pos
    have seen : ¬(speckAt ⟨view.width, 0.5 / narrow view.pixelRatio⟩).Invisible view :=
      GradientDisc.not_invisible_of_center fits ⟨last.1, by decide⟩ ⟨inside, physicalSide_pos _ _⟩
        last.2 first.2 reach.1 reach.2 rfl
    exact seen (culls _ (GradientDisc.isSound_speckAt view.isFinite_width first.1) outside)
  · intro half
    have last := scaled_side_of_half view.isFinite_height scaleFinite scalePower power half
    have outside : (speckAt ⟨0.5 / narrow view.pixelRatio, view.height⟩).intersects view = false := by
      unfold GradientDisc.intersects
      rw [Bool.and_eq_false_iff, decide_eq_false_iff_not (p := _ < view.height)]
      exact Or.inr (culled view.isFinite_height view.one_le_exact_height)
    have inside := Nat.sub_lt (physicalSide_pos view.height view.pixelRatio) one_pos
    have seen : ¬(speckAt ⟨0.5 / narrow view.pixelRatio, view.height⟩).Invisible view :=
      GradientDisc.not_invisible_of_center fits ⟨by decide, last.1⟩ ⟨physicalSide_pos _ _, inside⟩
        first.2 last.2 reach.1 reach.2 rfl
    exact seen (culls _ (GradientDisc.isSound_speckAt first.1 view.isFinite_height) outside)

/-! ## Leaving out everything that is culled -/

/-- If everything that is culled is invisible, nothing is lost by leaving it out
all at once. -/
theorem CullsInvisibly.paint_filter (culls : view.CullsInvisibly) (frame : Frame)
    (same : frame.viewport = view) (discs before : List GradientDisc) {surface : PixelSurface}
    (sound : surface.IsSound) :
    ({ frame with nebulae := before ++ discs.filter (·.intersects view) } : Frame).paint surface =
      ({ frame with nebulae := before ++ discs } : Frame).paint surface := by
  induction discs generalizing before with
  | nil => rfl
  | cons disc discs ih =>
      by_cases inside : disc.intersects view
      · rw [List.filter_cons_of_pos (p := (GradientDisc.intersects · view)) inside, List.append_cons,
          List.append_cons before disc discs]
        exact ih (before ++ [disc])
      · have outside : disc.intersects view = false := Bool.eq_false_iff.mpr inside
        have invisible : disc.Invisible view := by
          by_cases finite : disc.IsSound
          · exact culls disc finite outside
          · exact GradientDisc.invisible_of_not_isSound finite outside
        rw [List.filter_cons_of_neg (p := (GradientDisc.intersects · view)) inside, ih]
        exact (invisible { frame with nebulae := before ++ discs } before discs surface same rfl
          sound).symm

end Viewport

/-- The discs of all nebulae, in sight or not. -/
def ParticleField.discs (field : ParticleField) : List GradientDisc :=
  field.population.nebulae.flatMap nebulaDiscs

namespace Viewport

/-- What culling takes from a picture.  Nothing at the near edges.  Nothing at the
far ones either, as long as the sides clear the centers of the discs.  With a
ratio that is a power of two nothing at all, exactly if no side ends half-way
in a pixel.  A view that culls invisibly shows every field as if nothing were
culled. -/
theorem culled_invisible (view : Viewport) :
    (forall disc : GradientDisc, disc.IsSound ->
      ¬0 < disc.center.x + disc.radius ∨ ¬0 < disc.center.y + disc.radius ->
        disc.Invisible view) ∧
    (forall reach : ℚ, Clears view.width view.pixelRatio reach ->
      Clears view.height view.pixelRatio reach ->
        forall disc : GradientDisc, disc.IsSound -> exact disc.center.x ≤ reach ->
          exact disc.center.y ≤ reach -> disc.intersects view = false -> disc.Invisible view) ∧
    (forall count : ℕ, exact view.pixelRatio = 2 ^ count ->
      (view.CullsInvisibly ↔ (view.physicalSize.area < UInt32.size ->
        ¬EndsHalfWay view.width view.pixelRatio ∧ ¬EndsHalfWay view.height view.pixelRatio))) ∧
    (view.CullsInvisibly -> forall (field : ParticleField) (timeMs : Float) (frame : Frame)
      (surface : PixelSurface), field.viewport = view -> field.describe timeMs = .ok frame ->
        surface.IsSound ->
          frame.paint surface = ({ frame with nebulae := field.discs } : Frame).paint surface) := by
  refine ⟨fun disc sound before => sound.invisible_of_before before,
    fun reach width height disc sound column row outside =>
      sound.invisible_of_reach width height ⟨column, row⟩ outside,
    fun count power => ⟨fun culls fits => culls.not_endsHalfWay power fits,
      fun clear disc sound outside => sound.invisible_of_power power clear outside⟩, ?_⟩
  intro culls field timeMs frame surface same described sound
  rcases Outcome.bind_eq_ok.mp described with ⟨stars, -, made⟩
  cases made
  subst same
  exact culls.paint_filter
    { viewport := field.viewport, timestampMs := timeMs, background := field.settings.background.rgba,
      stars := stars, overlay := field.settings.overlay } rfl field.discs [] sound

/-- A nebula on the left of a view of one to two pixels. -/
def nebulaOnTheLeft : ParticleField :=
  { ParticleField.blank {} with
    viewport := .ofReadings 1 2 2
    population := { nebulae :=
      [⟨⟨-500, 20⟩, ⟨0, 0⟩, 1, [⟨⟨0, 0⟩, 50, 0.5, ⟨1, 1, 1⟩⟩], ⟨50, 50⟩⟩] } }

/-- Sides in whole numbers and a ratio of two. -/
theorem culled_invisible_doubled :
    (⟨⟨-1, 1⟩, 0.5, solidWhite⟩ : GradientDisc).Invisible (.ofReadings 1 2 2) ∧
    (⟨⟨2, 1⟩, 0.5, solidWhite⟩ : GradientDisc).Invisible (.ofReadings 1 2 2) ∧
    (ofReadings 1 2 2).CullsInvisibly ∧
    Exists fun frame => nebulaOnTheLeft.describe 0 = .ok frame ∧ frame.nebulae = [] ∧
      frame.paint (⟨⟨1, 1⟩, #[.transparent]⟩ : PixelSurface) =
        ({ frame with nebulae := nebulaOnTheLeft.discs } : Frame).paint ⟨⟨1, 1⟩, #[.transparent]⟩ := by
  have nonneg : (0 : Float32) ≤ 0.5 := by decide
  have left : ¬(0 : Float32) < -1 + 0.5 := by decide
  have outside : (⟨⟨2, 1⟩, 0.5, solidWhite⟩ : GradientDisc).intersects (.ofReadings 1 2 2) = false :=
    by decide
  have columns : (physicalSide 1 2).toNat = 2 := by decide +kernel
  have rows : (physicalSide 2 2).toNat = 4 := by decide +kernel
  have ratio : exact (2 : Float) = 2 := by
    rw [exact_of_unpack (u := .finite .positive 4503599627370496 (-51) (by decide)) rfl]
    norm_num [Exact.value, Exact.signed]
  have width : Clears 1 2 2 := by
    rw [Clears, columns, exact_single_one, ratio]
    norm_num
  have height : Clears 2 2 2 := by
    rw [Clears, rows, exact_single_two, ratio]
    norm_num
  have clear : ¬EndsHalfWay 1 2 ∧ ¬EndsHalfWay 2 2 := by
    rw [EndsHalfWay, EndsHalfWay, columns, rows, exact_single_one, exact_single_two, ratio]
    norm_num
  have row : exact (1 : Float32) ≤ 2 := by
    rw [exact_single_one]
    norm_num
  have spec := culled_invisible (.ofReadings 1 2 2)
  have culls := (spec.2.2.1 1 (ratio.trans (pow_one 2).symm)).mpr fun _ => clear
  exact ⟨spec.1 _ ⟨rfl, rfl, rfl, nonneg⟩ (Or.inl left),
    spec.2.1 2 width height _ ⟨rfl, rfl, rfl, nonneg⟩ exact_single_two.le row outside, culls, _, rfl,
    by decide +kernel,
    spec.2.2.2 culls nebulaOnTheLeft 0 _ _ rfl rfl ⟨by decide, by decide, by decide, rfl⟩⟩

/-- A side of 1.5 is rounded up to two pixels, so the middle of the second one
lies on the edge.  A disc there begins before the edge, by too little to tell:
it is culled, and covers that pixel. -/
theorem exists_culled_disc_seen : Exists fun disc : GradientDisc => disc.IsSound ∧
    disc.intersects (.ofReadings 1.5 1 1) = false ∧ ¬disc.Invisible (.ofReadings 1.5 1 1) := by
  have nonneg : (0 : Float32) ≤ 1e-9 := by decide
  have sound : (⟨⟨1, 1⟩, #[.transparent]⟩ : PixelSurface).IsSound :=
    ⟨by decide, by decide, by decide, rfl⟩
  have seen : ((({ GradientDisc.blank (.ofReadings 1.5 1 1) with
      nebulae := [⟨⟨1.5, 0.5⟩, 1e-9, solidWhite⟩] } : Frame).paint
        (⟨⟨1, 1⟩, #[.transparent]⟩ : PixelSurface)).toOption.map fun shown =>
          shown.pixels.map (·.alpha)) ≠
      (((GradientDisc.blank (.ofReadings 1.5 1 1)).paint
        (⟨⟨1, 1⟩, #[.transparent]⟩ : PixelSurface)).toOption.map fun shown =>
          shown.pixels.map (·.alpha)) := by decide +kernel
  refine ⟨⟨⟨1.5, 0.5⟩, 1e-9, solidWhite⟩, ⟨rfl, rfl, rfl, nonneg⟩, by decide, fun invisible => ?_⟩
  have same := invisible (GradientDisc.blank (.ofReadings 1.5 1 1)) [] [] _ rfl rfl sound
  exact seen (congrArg (fun outcome => outcome.toOption.map fun shown : PixelSurface =>
    shown.pixels.map (·.alpha)) same)

end Viewport

end Starfield
