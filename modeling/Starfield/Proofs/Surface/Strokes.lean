import Starfield.Proofs.Outcome
import Starfield.Surface.Pixel

namespace Starfield

/-!
# Strokes

A drawing looks at the pixels of a box, row by row, and lays its color over
those that it covers.  So it is a list of strokes, one for each covered pixel,
and the list depends on nothing but the drawing and the size of the surface.
What a drawing does to a surface follows by induction on the strokes from what
a single one does.
-/

/-- A color laid over one pixel. -/
structure Stroke where
  x : ℕ
  y : ℕ
  color : Rgba
  coverage : Float32

namespace Stroke

/-- The place of the pixel in the list of all pixels. -/
def index (stroke : Stroke) (size : PhysicalSize) : ℕ :=
  stroke.y * size.width.toNat + stroke.x

/-- Some of the color is left, so the pixel is written. -/
def Marks (stroke : Stroke) : Prop :=
  ¬Single.clampUnit (stroke.color.alpha * stroke.coverage) ≤ 0

/-- The pixel is one of a surface of this size. -/
def LiesIn (stroke : Stroke) (size : PhysicalSize) : Prop :=
  stroke.x < size.width.toNat ∧ stroke.y < size.height.toNat

def lay (surface : PixelSurface) (stroke : Stroke) : Except Fault PixelSurface :=
  surface.blend stroke.color stroke.coverage stroke.x stroke.y

/-- What the pixel becomes. -/
def mixed (stroke : Stroke) (below : Rgba) : Rgba :=
  PixelSurface.composite stroke.color
    (Single.clampUnit (stroke.color.alpha * stroke.coverage)) below

/-- Everything that a stroke can do. -/
theorem lay_cases (surface : PixelSurface) (stroke : Stroke) :
    (¬stroke.Marks ∧ stroke.lay surface = .ok surface) ∨
      (stroke.Marks ∧ Exists fun inside : stroke.index surface.size < surface.pixels.size =>
        stroke.lay surface = .ok { surface with
          pixels := surface.pixels.set (stroke.index surface.size)
            (stroke.mixed surface.pixels[stroke.index surface.size]) inside }) ∨
      (stroke.Marks ∧ surface.pixels.size ≤ stroke.index surface.size ∧
        stroke.lay surface = .error .pixelOutside) := by
  by_cases marks : stroke.Marks
  · by_cases inside : stroke.index surface.size < surface.pixels.size
    · exact Or.inr (Or.inl ⟨marks, inside, (if_neg marks).trans (dif_pos inside)⟩)
    · exact Or.inr (Or.inr ⟨marks, not_lt.mp inside, (if_neg marks).trans (dif_neg inside)⟩)
  · exact Or.inl ⟨marks, if_pos (not_not.mp marks)⟩

end Stroke

namespace PixelSurface

/-- Two surfaces with the same sides and as many pixels. -/
structure SameShape (next surface : PixelSurface) : Prop where
  size_eq : next.size = surface.size
  pixels_size_eq : next.pixels.size = surface.pixels.size

theorem SameShape.trans {first second third : PixelSurface} (later : SameShape third second)
    (earlier : SameShape second first) : SameShape third first :=
  ⟨later.size_eq.trans earlier.size_eq, later.pixels_size_eq.trans earlier.pixels_size_eq⟩

theorem sameShape_of_lay {surface next : PixelSurface} {stroke : Stroke}
    (laid : stroke.lay surface = .ok next) : SameShape next surface := by
  rcases stroke.lay_cases surface with ⟨-, kept⟩ | ⟨-, inside, changed⟩ | ⟨-, -, refused⟩
  · cases laid.symm.trans kept
    exact ⟨rfl, rfl⟩
  · cases laid.symm.trans changed
    exact ⟨rfl, Array.size_set inside⟩
  · cases laid.symm.trans refused

/-! ## Lists of strokes -/

def layAll (surface : PixelSurface) (strokes : List Stroke) : Except Fault PixelSurface :=
  strokes.foldlM Stroke.lay surface

theorem layAll_append (surface : PixelSurface) (first second : List Stroke) :
    surface.layAll (first ++ second) = surface.layAll first >>= fun next => next.layAll second :=
  List.foldlM_append

theorem sameShape_of_layAll {strokes : List Stroke} {surface last : PixelSurface}
    (laid : surface.layAll strokes = .ok last) : SameShape last surface := by
  induction strokes generalizing surface with
  | nil => cases laid; exact ⟨rfl, rfl⟩
  | cons stroke strokes ih =>
      rw [layAll, List.foldlM_cons, Outcome.bind_eq_ok] at laid
      rcases laid with ⟨next, first, rest⟩
      exact (ih rest).trans (sameShape_of_lay first)

/-- Strokes on pixels of the surface can be laid. -/
theorem layAll_ok {strokes : List Stroke} {surface : PixelSurface}
    (inside : forall stroke, stroke ∈ strokes -> stroke.Marks ->
      stroke.index surface.size < surface.pixels.size) :
    Exists fun last => surface.layAll strokes = .ok last := by
  induction strokes generalizing surface with
  | nil => exact ⟨surface, rfl⟩
  | cons stroke strokes ih =>
      rw [layAll, List.foldlM_cons]
      have first : Exists fun next => stroke.lay surface = .ok next := by
        rcases stroke.lay_cases surface with ⟨-, kept⟩ | ⟨-, _, changed⟩ | ⟨marks, outside, -⟩
        · exact ⟨surface, kept⟩
        · exact ⟨_, changed⟩
        · exact absurd (inside stroke List.mem_cons_self marks) outside.not_gt
      rcases first with ⟨next, laid⟩
      have shape := sameShape_of_lay laid
      rw [laid, Outcome.ok_bind]
      refine ih fun other member marks => ?_
      rw [shape.size_eq, shape.pixels_size_eq]
      exact inside other (List.mem_cons_of_mem stroke member) marks

/-- A single stroke behind the last pixel is enough for a fault. -/
theorem layAll_outside {strokes : List Stroke} {surface : PixelSurface} {stroke : Stroke}
    (member : stroke ∈ strokes) (marks : stroke.Marks)
    (outside : surface.pixels.size ≤ stroke.index surface.size) :
    surface.layAll strokes = .error .pixelOutside := by
  induction strokes generalizing surface with
  | nil => cases member
  | cons first strokes ih =>
      rw [layAll, List.foldlM_cons]
      have laid (next : PixelSurface) (first_ok : first.lay surface = .ok next)
          (later : stroke ∈ strokes) : next.layAll strokes = .error .pixelOutside := by
        have shape := sameShape_of_lay first_ok
        apply ih later
        rwa [shape.size_eq, shape.pixels_size_eq]
      rcases first.lay_cases surface with ⟨idle, kept⟩ | ⟨-, within, changed⟩ | ⟨-, -, refused⟩
      · rw [kept, Outcome.ok_bind]
        rcases List.mem_cons.mp member with same | later
        · exact absurd (same ▸ marks) idle
        · exact laid surface kept later
      · rw [changed, Outcome.ok_bind]
        rcases List.mem_cons.mp member with same | later
        · exact absurd (same ▸ outside) within.not_ge
        · exact laid _ changed later
      · rw [refused]
        rfl

/-! ## Strokes of a box -/

/-- The strokes on `count` pixels of a row. -/
def rowStrokes (color : Rgba) (coverage : Point Float32 -> Float32) (y x count : ℕ) :
    List Stroke :=
  ((List.range' x count).map fun x => ⟨x, y, color, coverage (pixelCenter x y)⟩).filter
    fun stroke => 0 < stroke.coverage

/-- The strokes on the pixels of a box that a drawing covers. -/
def Box.strokes (box : Box) (color : Rgba) (coverage : Point Float32 -> Float32) : List Stroke :=
  (List.range' box.top (box.bottom - box.top)).flatMap fun y =>
    rowStrokes color coverage y box.left (box.right - box.left)

theorem paintRow_eq (color : Rgba) (coverage : Point Float32 -> Float32) (y x count : ℕ)
    (surface : PixelSurface) :
    paintRow color coverage y x count surface = surface.layAll (rowStrokes color coverage y x count) := by
  induction count generalizing x surface with
  | zero => rfl
  | succ count ih =>
      rw [rowStrokes, List.range'_succ, List.map_cons, List.filter_cons]
      change (paintPixel color coverage x y surface >>=
        paintRow color coverage y (x + 1) count) = _
      unfold paintPixel
      by_cases covered : 0 < coverage (pixelCenter x y)
      · rw [if_pos covered, if_pos (decide_eq_true covered)]
        exact congrArg _ (funext fun next => ih (x + 1) next)
      · rw [if_neg covered, if_neg (by rwa [decide_eq_true_eq]), Outcome.ok_bind]
        exact ih (x + 1) surface

theorem paintRows_eq (color : Rgba) (coverage : Point Float32 -> Float32) (left width y count : ℕ)
    (surface : PixelSurface) :
    paintRows color coverage left width y count surface =
      surface.layAll ((List.range' y count).flatMap fun y =>
        rowStrokes color coverage y left width) := by
  induction count generalizing y surface with
  | zero => rfl
  | succ count ih =>
      rw [List.range'_succ, List.flatMap_cons, layAll_append, ← paintRow_eq]
      exact congrArg _ (funext fun next => ih (y + 1) next)

/-- Painting a box is laying its strokes. -/
theorem paint_eq (box : Box) (color : Rgba) (coverage : Point Float32 -> Float32)
    (surface : PixelSurface) :
    surface.paint box color coverage = surface.layAll (box.strokes color coverage) :=
  paintRows_eq color coverage box.left (box.right - box.left) box.top (box.bottom - box.top) surface

theorem Box.mem_strokes {box : Box} {color : Rgba} {coverage : Point Float32 -> Float32}
    {stroke : Stroke} :
    stroke ∈ box.strokes color coverage ↔
      ((box.left ≤ stroke.x ∧ stroke.x < box.right) ∧ box.top ≤ stroke.y ∧ stroke.y < box.bottom) ∧
        stroke = ⟨stroke.x, stroke.y, color, coverage (pixelCenter stroke.x stroke.y)⟩ ∧
        0 < stroke.coverage := by
  unfold Box.strokes rowStrokes
  simp only [List.mem_flatMap, List.mem_filter, List.mem_map, List.mem_range'_1, decide_eq_true_eq]
  constructor
  · rintro ⟨y, rows, ⟨x, columns, rfl⟩, covered⟩
    have right : x < box.right := by omega
    have bottom : y < box.bottom := by omega
    exact ⟨⟨⟨columns.1, right⟩, rows.1, bottom⟩, rfl, covered⟩
  · rintro ⟨⟨columns, rows⟩, same, covered⟩
    exact ⟨stroke.y, ⟨rows.1, by omega⟩, ⟨stroke.x, ⟨columns.1, by omega⟩, same.symm⟩, covered⟩

/-! ## Strokes of a drawing -/

/-- The strokes of a disc with some reach around its center. -/
def discStrokes (surface : PixelSurface) (center : Point Float32) (radius reach : Float32)
    (color : Rgba) (coverage : Point Float32 -> Float32) : List Stroke :=
  if isVisibleDisc radius color then
    match surface.boxAround? center reach with
    | some box => box.strokes color coverage
    | none => []
  else []

theorem layAll_discStrokes (surface : PixelSurface) (center : Point Float32)
    (radius reach : Float32) (color : Rgba) (coverage : Point Float32 -> Float32) :
    surface.layAll (surface.discStrokes center radius reach color coverage) =
      if isVisibleDisc radius color then
        match surface.boxAround? center reach with
        | some box => surface.paint box color coverage
        | none => .ok surface
      else .ok surface := by
  unfold discStrokes
  split_ifs with visible
  · cases surface.boxAround? center reach with
    | none => rfl
    | some box => exact (paint_eq box color coverage surface).symm
  · rfl

end PixelSurface

end Starfield
