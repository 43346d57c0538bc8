import Starfield.Proofs.Surface.Strokes

namespace Starfield

/-!
# Sound surfaces

A surface has at least one pixel on each side, fewer than `2 ^ 32` pixels, and
a color for each of them.  A fresh surface is sound and stays so under every
command that has a result, so the place of a pixel never leaves the range of
the machine words that count pixels.
-/

/-- A side that was raised to one pixel is at least one pixel. -/
theorem one_le_max_one (side : UInt32) : 1 ≤ max side 1 := by
  change (1 : UInt32) ≤ if side ≤ 1 then 1 else side
  split_ifs with small
  · exact UInt32.le_refl 1
  · exact UInt32.le_of_lt (UInt32.not_le.mp small)

theorem PhysicalSize.atLeastOne_pos (size : PhysicalSize) :
    0 < size.atLeastOne.width.toNat ∧ 0 < size.atLeastOne.height.toNat :=
  ⟨UInt32.le_iff_toNat_le.mp (one_le_max_one size.width),
    UInt32.le_iff_toNat_le.mp (one_le_max_one size.height)⟩

theorem Stroke.index_lt_area {stroke : Stroke} {size : PhysicalSize} (inside : stroke.LiesIn size) :
    stroke.index size < size.area := by
  rcases inside with ⟨column, row⟩
  calc stroke.y * size.width.toNat + stroke.x < (stroke.y + 1) * size.width.toNat := by
        rw [Nat.add_one_mul]
        omega
    _ ≤ size.height.toNat * size.width.toNat := Nat.mul_le_mul_right _ row
    _ = size.area := Nat.mul_comm _ _

namespace Surface

variable {σ : Type} [Surface σ]

theorem drawAll_cons (command : DrawCommand) (commands : List DrawCommand) (surface : σ) :
    drawAll (command :: commands) surface =
      draw command surface >>= fun next => drawAll commands next :=
  List.foldlM_cons

theorem drawAll_append (first second : List DrawCommand) (surface : σ) :
    drawAll (first ++ second) surface =
      drawAll first surface >>= fun next => drawAll second next :=
  List.foldlM_append

end Surface

namespace PixelSurface

structure IsSound (surface : PixelSurface) : Prop where
  width_pos : 0 < surface.size.width.toNat
  height_pos : 0 < surface.size.height.toNat
  area_lt : surface.size.area < UInt32.size
  /-- There is a color for each pixel. -/
  pixels_size : surface.pixels.size = surface.size.area

namespace IsSound

variable {surface next : PixelSurface}

theorem of_sameShape (sound : surface.IsSound) (shape : SameShape next surface) : next.IsSound := by
  rcases sound with ⟨width_pos, height_pos, area_lt, pixels_size⟩
  rw [← shape.size_eq] at width_pos height_pos area_lt pixels_size
  exact ⟨width_pos, height_pos, area_lt, shape.pixels_size_eq.trans pixels_size⟩

/-- Every pixel has a place that a machine word can hold, and a color there. -/
theorem pixel?_eq_some (sound : surface.IsSound) {x y : UInt32} (column : x < surface.size.width)
    (row : y < surface.size.height) :
    Exists fun inside : y.toNat * surface.size.width.toNat + x.toNat < surface.pixels.size =>
      surface.pixel? x y = some surface.pixels[y.toNat * surface.size.width.toNat + x.toNat] := by
  have inside : (⟨x.toNat, y.toNat, .transparent, 0⟩ : Stroke).LiesIn surface.size :=
    ⟨UInt32.lt_iff_toNat_lt.mp column, UInt32.lt_iff_toNat_lt.mp row⟩
  have place := Stroke.index_lt_area inside
  rw [← sound.pixels_size] at place
  exact ⟨place, (if_pos ⟨column, row⟩).trans (Array.getElem?_eq_getElem place)⟩

end IsSound

/-- What a fresh surface is, and when there is none. -/
theorem ofSize_eq_ok {size : PhysicalSize} {fresh : PixelSurface} :
    ofSize size = .ok fresh ↔ size.atLeastOne.area < UInt32.size ∧
      fresh = ⟨size.atLeastOne, Array.replicate size.atLeastOne.area .transparent⟩ := by
  unfold ofSize
  dsimp only
  split_ifs with fits
  · exact ⟨fun made => by cases made; exact ⟨fits, rfl⟩, fun ⟨_, same⟩ => same ▸ rfl⟩
  · exact iff_of_false nofun fun ⟨small, _⟩ => fits small

theorem isSound_ofSize {size : PhysicalSize} {fresh : PixelSurface}
    (made : ofSize size = .ok fresh) : fresh.IsSound := by
  rcases ofSize_eq_ok.mp made with ⟨fits, rfl⟩
  have sides := size.atLeastOne_pos
  exact ⟨sides.1, sides.2, fits, Array.size_replicate⟩

theorem sameShape_clear (color : Rgba) (surface : PixelSurface) :
    SameShape (clear color surface) surface :=
  ⟨rfl, Array.size_replicate⟩

/-! ## Drawings as strokes -/

/-- The strokes of a drawing.  Commands that change the surface as a whole have
none. -/
def strokes (surface : PixelSurface) : DrawCommand -> List Stroke
  | .resize _ => []
  | .clear _ => []
  | .circle center radius color =>
    surface.discStrokes center radius (radius + 1) color (circleCoverage center radius)
  | .gradient center radius color =>
    surface.discStrokes center radius radius color (gradientFalloff center radius)
  | .vignette vignette =>
    if vignette.strength ≤ 0 then []
    else
      let middle := surface.sides.scale 0.5
      surface.wholeBox.strokes (vignette.color.rgb.withAlpha vignette.strength) fun p =>
        smoothStep vignette.inner vignette.outer (p.distance middle / middle.length)
  | .lightBeam beam =>
    let width := surface.sides.x
    let halfWidth := beam.widthFraction * width
    if halfWidth ≤ 0 ∨ beam.alpha ≤ 0 then []
    else
      let angle := Single.radians beam.angle
      let normal := Point.perpendicular ⟨angle.cos, angle.sin⟩
      let origin : Point Float32 := ⟨width * (0.5 + beam.offsetFraction), surface.sides.y * 0.5⟩
      surface.wholeBox.strokes (beam.color.rgb.withAlpha beam.alpha) fun p =>
        1 - ((p - origin).dot normal).abs / halfWidth

end PixelSurface

namespace DrawCommand

/-- A command that leaves the size as it is. -/
def isDrawing : DrawCommand -> Bool
  | .resize _ => false
  | _ => true

/-- A command that looks at the square around a center only. -/
def isDisc : DrawCommand -> Bool
  | .circle .. => true
  | .gradient .. => true
  | _ => false

end DrawCommand

namespace PixelSurface

/-- A drawing lays its strokes, if it is not a clearing. -/
theorem draw_eq (surface : PixelSurface) (command : DrawCommand) :
    Surface.draw command surface = match command with
      | .resize size => resize size surface
      | .clear color => .ok (clear color surface)
      | other => surface.layAll (surface.strokes other) := by
  cases command with
  | resize => rfl
  | clear => rfl
  | circle center radius color => exact (layAll_discStrokes ..).symm
  | gradient center radius color => exact (layAll_discStrokes ..).symm
  | vignette vignette =>
      change applyVignette vignette surface = surface.layAll (if _ then _ else _)
      unfold applyVignette
      split_ifs
      · rfl
      · exact paint_eq ..
  | lightBeam beam =>
      change fillLightBeam beam surface = surface.layAll (if _ then _ else _)
      unfold fillLightBeam
      dsimp only
      split_ifs
      · rfl
      · exact paint_eq ..

/-- No drawing changes the sides or the number of pixels. -/
theorem sameShape_of_draw {surface next : PixelSurface} {command : DrawCommand}
    (drawing : command.isDrawing = true) (drawn : Surface.draw command surface = .ok next) :
    SameShape next surface := by
  rw [draw_eq] at drawn
  cases command with
  | resize => cases drawing
  | clear color => cases drawn; exact sameShape_clear color surface
  | _ => exact sameShape_of_layAll drawn

theorem isSound_resize {surface next : PixelSurface} {size : PhysicalSize}
    (sound : surface.IsSound) (resized : resize size surface = .ok next) : next.IsSound := by
  unfold resize at resized
  split_ifs at resized
  · cases resized; exact sound
  · exact isSound_ofSize resized

theorem isSound_draw {surface next : PixelSurface} {command : DrawCommand}
    (sound : surface.IsSound) (drawn : Surface.draw command surface = .ok next) : next.IsSound := by
  cases drawing : command.isDrawing with
  | true => exact sound.of_sameShape (sameShape_of_draw drawing drawn)
  | false =>
      cases command with
      | resize size => exact isSound_resize sound drawn
      | _ => cases drawing

theorem sameShape_drawAll {commands : List DrawCommand} {surface last : PixelSurface}
    (drawings : forall command, command ∈ commands -> command.isDrawing = true)
    (drawn : Surface.drawAll commands surface = .ok last) : SameShape last surface := by
  induction commands generalizing surface with
  | nil =>
      cases drawn
      exact ⟨rfl, rfl⟩
  | cons command commands ih =>
      rw [Surface.drawAll_cons, Outcome.bind_eq_ok] at drawn
      rcases drawn with ⟨next, first, rest⟩
      have later := ih (fun other member => drawings other (List.mem_cons_of_mem command member)) rest
      exact later.trans (sameShape_of_draw (drawings command List.mem_cons_self) first)

theorem isSound_drawAll {commands : List DrawCommand} {surface last : PixelSurface}
    (sound : surface.IsSound) (drawn : Surface.drawAll commands surface = .ok last) :
    last.IsSound := by
  induction commands generalizing surface with
  | nil => cases drawn; exact sound
  | cons command commands ih =>
      rw [Surface.drawAll_cons, Outcome.bind_eq_ok] at drawn
      rcases drawn with ⟨next, first, rest⟩
      exact ih (isSound_draw sound first) rest

end PixelSurface

end Starfield
