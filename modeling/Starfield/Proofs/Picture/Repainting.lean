import Starfield.Picture.Painting
import Starfield.Proofs.Surface.Clipping

namespace Starfield

/-!
# Repainting

Painting a frame is fitting the surface and applying a list of drawings.  The
first of them clears every pixel, so nothing is left of what a sound surface
showed before: the frame alone decides what any of them shows, and whether it
can be painted at all.
-/

namespace Surface

variable {σ : Type} [Surface σ]

theorem drawAll_singleton (command : DrawCommand) (surface : σ) :
    drawAll [command] surface = Surface.draw command surface := by
  rw [drawAll_cons]
  exact bind_pure _

/-- A drawing that may be there. -/
theorem drawAll_map_toList {α : Type} (make : α -> DrawCommand) (item? : Option α) (surface : σ) :
    drawAll (item?.toList.map make) surface = match item? with
      | some item => Surface.draw (make item) surface
      | none => pure surface := by
  cases item? with
  | none => rfl
  | some item => exact drawAll_singleton (make item) surface

end Surface

/-! ## The drawings of a frame -/

namespace Frame

def gradientDrawing (scale : Float32) (disc : GradientDisc) : DrawCommand :=
  .gradient (disc.center.scale scale) (disc.radius * scale) disc.color

/-- A star over its glow. -/
def starDrawings (scale : Float32) (star : StarDisc) : List DrawCommand :=
  (if 0 < star.glow then
    [.gradient (star.center.scale scale) ((star.radius + star.glow) * scale) star.haloColor]
  else []) ++ [.circle (star.center.scale scale) (star.radius * scale) star.color]

/-- Everything that is drawn over the background. -/
def details (frame : Frame) : List DrawCommand :=
  let scale := narrow frame.viewport.pixelRatio
  frame.nebulae.map (gradientDrawing scale) ++ (frame.stars.flatMap (starDrawings scale) ++
    (frame.overlay.vignette.toList.map .vignette ++ frame.overlay.lightBeam.toList.map .lightBeam))

theorem isDrawing_details (frame : Frame) {command : DrawCommand} (member : command ∈ frame.details) :
    command.isDrawing = true := by
  have ofStar (scale : Float32) (star : StarDisc) (drawn : command ∈ starDrawings scale star) :
      command.isDrawing = true := by
    unfold starDrawings at drawn
    split_ifs at drawn <;> simp only [List.cons_append, List.nil_append, List.mem_cons,
      List.not_mem_nil, or_false] at drawn
    · rcases drawn with rfl | rfl <;> rfl
    · rw [drawn]
      rfl
  unfold details at member
  simp only [List.mem_append, List.mem_map, List.mem_flatMap] at member
  rcases member with ⟨disc, -, rfl⟩ | ⟨star, -, drawn⟩ | ⟨vignette, -, rfl⟩ | ⟨beam, -, rfl⟩
  · rfl
  · exact ofStar _ star drawn
  · rfl
  · rfl

section AnySurface

variable {σ : Type} [Surface σ]

theorem paintStar_eq (scale : Float32) (surface : σ) (star : StarDisc) :
    paintStar scale surface star = Surface.drawAll (starDrawings scale star) surface := by
  unfold paintStar starDrawings
  split_ifs
  · exact (Surface.drawAll_append ..).trans (by simp only [Surface.drawAll_singleton]) |>.symm
  · rw [List.nil_append, Surface.drawAll_singleton]
    rfl

theorem paintStars_eq (scale : Float32) (stars : List StarDisc) (surface : σ) :
    stars.foldlM (paintStar scale) surface =
      Surface.drawAll (stars.flatMap (starDrawings scale)) surface := by
  induction stars generalizing surface with
  | nil => rfl
  | cons star stars ih =>
      rw [List.foldlM_cons, List.flatMap_cons, Surface.drawAll_append, paintStar_eq]
      exact congrArg _ (funext ih)

theorem paintGradients_eq (scale : Float32) (discs : List GradientDisc) (surface : σ) :
    discs.foldlM (paintGradient scale) surface =
      Surface.drawAll (discs.map (gradientDrawing scale)) surface := by
  rw [Surface.drawAll, List.foldlM_map]
  rfl

/-- Painting is fitting, clearing and drawing the details. -/
theorem paint_eq (frame : Frame) (surface : σ) :
    frame.paint surface = frame.fit surface >>= fun fitted =>
      Surface.drawAll (.clear frame.background :: frame.details) fitted := by
  unfold paint details
  simp only [Surface.drawAll_cons, Surface.drawAll_append, Surface.drawAll_map_toList,
    ← paintGradients_eq, ← paintStars_eq]
  cases frame.overlay.vignette with
  | none =>
      simp only [pure_bind]
      cases frame.overlay.lightBeam <;> rfl
  | some vignette => cases frame.overlay.lightBeam <;> rfl

end AnySurface

end Frame

/-! ## Sound surfaces -/

namespace Viewport

/-- The sides in physical pixels are long enough already. -/
theorem atLeastOne_physicalSize (viewport : Viewport) :
    viewport.physicalSize.atLeastOne = viewport.physicalSize := by
  have idempotent (side : UInt32) : max (max side 1) 1 = max side 1 := by
    change (if max side 1 ≤ 1 then 1 else max side 1) = max side 1
    split_ifs with small
    · exact UInt32.le_antisymm (one_le_max_one side) small
    · rfl
  exact congrArg₂ PhysicalSize.mk (idempotent _) (idempotent _)

end Viewport

namespace PixelSurface

/-- Two sound surfaces of one size look the same once they are cleared. -/
theorem clear_eq {surface : PixelSurface} (sound : surface.IsSound) (color : Rgba) :
    clear color surface = ⟨surface.size, Array.replicate surface.size.area
      (color.withAlpha color.alpha)⟩ := by
  unfold clear
  rw [sound.pixels_size]

end PixelSurface

namespace Frame

/-- The surface of a frame before anything is drawn over the background. -/
def canvas (frame : Frame) : PixelSurface :=
  ⟨frame.viewport.physicalSize, Array.replicate frame.viewport.physicalSize.area
    (frame.background.withAlpha frame.background.alpha)⟩

/-- A sound surface can be fitted if a surface of the size of the view can be
made at all. -/
theorem fit_cases (frame : Frame) {surface : PixelSurface} (sound : surface.IsSound) :
    (frame.viewport.physicalSize.area < UInt32.size ∧ Exists fun fitted =>
      frame.fit surface = .ok fitted ∧ fitted.IsSound ∧ fitted.size = frame.viewport.physicalSize) ∨
    (¬frame.viewport.physicalSize.area < UInt32.size ∧
      frame.fit surface = .error .areaOverflow) := by
  have room := frame.viewport.atLeastOne_physicalSize
  unfold fit
  by_cases same : Surface.size surface = frame.viewport.physicalSize
  · have fits := sound.area_lt
    rw [show surface.size = frame.viewport.physicalSize from same] at fits
    exact Or.inl ⟨fits, surface, if_pos same, sound, same⟩
  · have other : ¬frame.viewport.physicalSize.atLeastOne = surface.size := by
      rw [room]
      exact fun equal => same equal.symm
    have resized : Surface.draw (.resize frame.viewport.physicalSize) surface =
        PixelSurface.ofSize frame.viewport.physicalSize := if_neg other
    simp only [if_neg same, resized]
    by_cases fits : frame.viewport.physicalSize.area < UInt32.size
    · have made := PixelSurface.ofSize_eq_ok.mpr ⟨by rwa [room], rfl⟩
      exact Or.inl ⟨fits, _, made, PixelSurface.isSound_ofSize made, room⟩
    · refine Or.inr ⟨fits, ?_⟩
      unfold PixelSurface.ofSize
      rw [room]
      exact if_neg fits

/-- What painting does to a sound surface does not depend on the surface. -/
theorem paint_sound (frame : Frame) {surface : PixelSurface} (sound : surface.IsSound) :
    frame.paint surface =
      if frame.viewport.physicalSize.area < UInt32.size then
        Surface.drawAll frame.details frame.canvas
      else .error .areaOverflow := by
  rw [paint_eq]
  rcases frame.fit_cases sound with ⟨fits, fitted, fitting, fittedSound, size_eq⟩ | ⟨large, fault⟩
  · have cleared : Surface.draw (.clear frame.background) fitted = .ok frame.canvas := by
      change Except.ok (PixelSurface.clear frame.background fitted) = _
      rw [PixelSurface.clear_eq fittedSound, size_eq]
      rfl
    rw [fitting, Outcome.ok_bind, Surface.drawAll_cons, cleared, Outcome.ok_bind, if_pos fits]
  · rw [fault, if_neg large]
    rfl

theorem isSound_canvas {frame : Frame} (fits : frame.viewport.physicalSize.area < UInt32.size) :
    frame.canvas.IsSound := by
  have sides := frame.viewport.physicalSize.atLeastOne_pos
  rw [frame.viewport.atLeastOne_physicalSize] at sides
  exact ⟨sides.1, sides.2, fits, Array.size_replicate⟩

/-- A painted surface is sound and has the size of the view. -/
theorem of_paint_eq_ok {frame : Frame} {surface painted : PixelSurface} (sound : surface.IsSound)
    (paints : frame.paint surface = .ok painted) :
    painted.IsSound ∧ painted.size = frame.viewport.physicalSize := by
  rw [paint_sound frame sound] at paints
  split_ifs at paints with fits
  have shape := PixelSurface.sameShape_drawAll (fun _ => isDrawing_details frame) paints
  exact ⟨(isSound_canvas fits).of_sameShape shape, shape.size_eq⟩

/-- A frame can be painted on any sound surface if its view has a size that a
surface can have and that clips down. -/
theorem paint_ok_of_clipsDown {frame : Frame} {surface : PixelSurface} (sound : surface.IsSound)
    (fits : frame.viewport.physicalSize.area < UInt32.size)
    (clips : frame.viewport.physicalSize.ClipsDown) :
    Exists fun painted => frame.paint surface = .ok painted := by
  rw [paint_sound frame sound, if_pos fits]
  exact PixelSurface.drawAll_ok (isSound_canvas fits) (fun _ => isDrawing_details frame)
    fun _ _ _ => clips

end Frame

end Starfield
