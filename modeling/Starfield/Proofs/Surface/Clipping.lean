import Starfield.Proofs.Number.Infinite
import Starfield.Proofs.Number.Truncation
import Starfield.Proofs.Surface.Sound

namespace Starfield

/-!
# Clipping

A disc is clipped to the surface in single precision, where a side above
`2 ^ 24` is rounded.  If it is rounded down or not at all, the clipped box lies
in the surface.  If it is rounded up, the box can reach over the edge, and a
drawing there writes a pixel of the next row or one that does not exist.  So
the sides that clip down are exactly the safe ones.
-/

/-- Neither side grows on its way to single precision and back. -/
def PhysicalSize.ClipsDown (size : PhysicalSize) : Prop :=
  size.width.toFloat32.toUInt32 ≤ size.width ∧ size.height.toFloat32.toUInt32 ≤ size.height

instance (size : PhysicalSize) : Decidable size.ClipsDown :=
  inferInstanceAs (Decidable (size.width.toFloat32.toUInt32 ≤ size.width ∧
    size.height.toFloat32.toUInt32 ≤ size.height))

/-- Sides up to `2 ^ 24` do not change at all. -/
theorem PhysicalSize.clipsDown_of_le {size : PhysicalSize} (width : size.width.toNat ≤ 2 ^ 24)
    (height : size.height.toNat ≤ 2 ^ 24) : size.ClipsDown :=
  ⟨UInt32.le_iff_toNat_le.mpr (toUInt32_toFloat32 width).le,
    UInt32.le_iff_toNat_le.mpr (toUInt32_toFloat32 height).le⟩

/-- The smaller of two numbers is not above the second one. -/
theorem Single.exact_smaller_le {x y : Float32} (defined : IsDefined y) :
    exact (smaller x y) ≤ exact y := by
  unfold smaller
  split_ifs with above
  · exact le_rfl
  · rw [Bool.or_eq_true, not_or, decide_eq_true_eq, Bool.not_eq_true] at above
    have ordered : IsDefined x := above.2
    exact ((le_iff x y).mp ((not_lt_iff_le defined ordered).mp above.1)).2.2

namespace PixelSurface

variable {surface : PixelSurface}

theorem boxAround?_within {center : Point Float32} {reach : Float32} {box : Box}
    (clipped : surface.boxAround? center reach = some box) :
    box.right ≤ surface.size.width.toFloat32.toUInt32.toNat ∧
      box.bottom ≤ surface.size.height.toFloat32.toUInt32.toNat := by
  unfold boxAround? at clipped
  dsimp only at clipped
  split_ifs at clipped
  cases clipped
  exact ⟨toUInt32_mono (Single.exact_smaller_le (rounds_toFloat32 _).defined),
    toUInt32_mono (Single.exact_smaller_le (rounds_toFloat32 _).defined)⟩

theorem liesIn_wholeBox {color : Rgba} {coverage : Point Float32 -> Float32} {stroke : Stroke}
    (member : stroke ∈ surface.wholeBox.strokes color coverage) : stroke.LiesIn surface.size := by
  rcases Box.mem_strokes.mp member with ⟨⟨columns, rows⟩, -⟩
  exact ⟨columns.2, rows.2⟩

theorem liesIn_discStrokes (clips : surface.size.ClipsDown) {center : Point Float32}
    {radius reach : Float32} {color : Rgba} {coverage : Point Float32 -> Float32} {stroke : Stroke}
    (member : stroke ∈ surface.discStrokes center radius reach color coverage) :
    stroke.LiesIn surface.size := by
  unfold discStrokes at member
  split_ifs at member
  · cases clipped : surface.boxAround? center reach with
    | none => rw [clipped] at member; cases member
    | some box =>
        rw [clipped] at member
        rcases Box.mem_strokes.mp member with ⟨⟨columns, rows⟩, -⟩
        have within := boxAround?_within clipped
        exact ⟨columns.2.trans_le (within.1.trans (UInt32.le_iff_toNat_le.mp clips.1)),
          rows.2.trans_le (within.2.trans (UInt32.le_iff_toNat_le.mp clips.2))⟩
  · cases member

/-- A drawing that is no disc keeps to the surface in any case, and discs do on
surfaces that clip down. -/
theorem liesIn_strokes {command : DrawCommand} (clips : command.isDisc = true -> surface.size.ClipsDown)
    {stroke : Stroke} (member : stroke ∈ surface.strokes command) : stroke.LiesIn surface.size := by
  cases command with
  | resize => cases member
  | clear => cases member
  | circle => exact liesIn_discStrokes (clips rfl) member
  | gradient => exact liesIn_discStrokes (clips rfl) member
  | vignette =>
      unfold strokes at member
      dsimp only at member
      split_ifs at member
      · cases member
      · exact liesIn_wholeBox member
  | lightBeam =>
      unfold strokes at member
      dsimp only at member
      split_ifs at member
      · cases member
      · exact liesIn_wholeBox member

/-- Strokes on the pixels of a sound surface can be laid. -/
theorem draw_ok (sound : surface.IsSound) {command : DrawCommand} (drawing : command.isDrawing = true)
    (inside : forall stroke, stroke ∈ surface.strokes command -> stroke.LiesIn surface.size) :
    Exists fun next => Surface.draw command surface = .ok next := by
  have lays (other : DrawCommand) (members : forall stroke, stroke ∈ surface.strokes other ->
      stroke.LiesIn surface.size) : Exists fun next => surface.layAll (surface.strokes other) = .ok next := by
    refine layAll_ok fun stroke member _ => ?_
    rw [sound.pixels_size]
    exact Stroke.index_lt_area (members stroke member)
  rw [draw_eq]
  cases command with
  | resize => cases drawing
  | clear color => exact ⟨_, rfl⟩
  | _ => exact lays _ inside

/-! ## Runs of drawings -/

/-- One drawing after the other writes nothing but pixels of the surface, has a
result, and leaves a sound surface of the same size to the next one. -/
def DrawsInside : List DrawCommand -> PixelSurface -> Prop
  | [], surface => surface.IsSound
  | command :: commands, surface =>
    surface.IsSound ∧
      (forall stroke, stroke ∈ surface.strokes command -> stroke.Marks -> stroke.LiesIn surface.size) ∧
      Exists fun next => Surface.draw command surface = .ok next ∧ next.size = surface.size ∧
        DrawsInside commands next

theorem drawsInside {commands : List DrawCommand} (sound : surface.IsSound)
    (drawings : forall command, command ∈ commands -> command.isDrawing = true)
    (clips : forall command, command ∈ commands -> command.isDisc = true -> surface.size.ClipsDown) :
    DrawsInside commands surface := by
  induction commands generalizing surface with
  | nil => exact sound
  | cons command commands ih =>
      have inside (stroke : Stroke) (member : stroke ∈ surface.strokes command) :
          stroke.LiesIn surface.size :=
        liesIn_strokes (clips command List.mem_cons_self) member
      rcases draw_ok sound (drawings command List.mem_cons_self) inside with ⟨next, drawn⟩
      have shape := sameShape_of_draw (drawings command List.mem_cons_self) drawn
      refine ⟨sound, fun stroke member _ => inside stroke member, next, drawn, shape.size_eq, ?_⟩
      refine ih (isSound_draw sound drawn)
        (fun other member => drawings other (List.mem_cons_of_mem command member))
        fun other member disc => ?_
      rw [shape.size_eq]
      exact clips other (List.mem_cons_of_mem command member) disc

/-- So the run has a result. -/
theorem drawAll_ok {commands : List DrawCommand} (sound : surface.IsSound)
    (drawings : forall command, command ∈ commands -> command.isDrawing = true)
    (clips : forall command, command ∈ commands -> command.isDisc = true -> surface.size.ClipsDown) :
    Exists fun last => Surface.drawAll commands surface = .ok last := by
  have reaches {commands : List DrawCommand} {surface : PixelSurface}
      (inside : DrawsInside commands surface) :
      Exists fun last => Surface.drawAll commands surface = .ok last := by
    induction commands generalizing surface with
    | nil => exact ⟨surface, rfl⟩
    | cons command commands ih =>
        rcases inside with ⟨-, -, next, drawn, -, rest⟩
        rcases ih rest with ⟨last, reached⟩
        refine ⟨last, ?_⟩
        rw [Surface.drawAll_cons, drawn]
        exact reached
  exact reaches (drawsInside sound drawings clips)

/-! ## Where the clipping fails -/

theorem isFinite_pixelCenter (x y : ℕ) :
    IsFinite (pixelCenter x y).x ∧ IsFinite (pixelCenter x y).y := by
  have small : |exact (0.5 : Float32)| < Exact.lastStep (Binary.format Float32) / 2 := by
    have step : Exact.lastStep (Binary.format Float32) = 2 ^ (104 : ℤ) := rfl
    rw [exact_single_half, step]
    norm_num
  exact ⟨isFinite_add (isFinite_toFloat32 _) rfl small, isFinite_add (isFinite_toFloat32 _) rfl small⟩

/-- A disc without end covers the clipped box. -/
theorem boxAround?_endless (sound : surface.IsSound) {center : Point Float32}
    (finite : IsFinite center.x ∧ IsFinite center.y) :
    surface.boxAround? center (endless + 1) =
      some ⟨0, 0, surface.size.width.toFloat32.toUInt32.toNat,
        surface.size.height.toFloat32.toUInt32.toNat⟩ := by
  have least : Single.larger (Single.floor (-endless)) 0 = 0 := rfl
  have top : Single.ceiling endless = endless := rfl
  have clip (side : UInt32) : Single.smaller endless side.toFloat32 = side.toFloat32 := by
    unfold Single.smaller
    rw [decide_eq_true (lt_endless (isFinite_toFloat32 side)), Bool.true_or, if_pos rfl]
  unfold boxAround?
  rw [show endless + 1 = endless from rfl, sub_endless finite.1, sub_endless finite.2,
    add_endless finite.1, add_endless finite.2, least, top, clip, clip]
  exact if_pos ⟨toFloat32_pos sound.width_pos, toFloat32_pos sound.height_pos⟩

/-- A color that hides what is below it. -/
def solidWhite : Rgba := ⟨1, 1, 1, 1⟩

theorem coverage_endless {center : Point Float32} (finite : IsFinite center.x ∧ IsFinite center.y) :
    circleCoverage center endless center = 1 := by
  have nothing : center - center = ⟨0, 0⟩ :=
    congrArg₂ Point.mk (sub_self_of_isFinite finite.1) (sub_self_of_isFinite finite.2)
  unfold circleCoverage Point.distance
  rw [nothing]
  rfl

/-- A disc without end faults if the clipped box has a pixel behind the last
one of the surface. -/
theorem draw_endless_outside (sound : surface.IsSound) {x y : ℕ}
    (column : x < surface.size.width.toFloat32.toUInt32.toNat)
    (row : y < surface.size.height.toFloat32.toUInt32.toNat)
    (outside : surface.size.area ≤ y * surface.size.width.toNat + x) :
    Surface.draw (.circle (pixelCenter x y) endless solidWhite) surface = .error .pixelOutside := by
  have finite := isFinite_pixelCenter x y
  have covered := coverage_endless finite
  have member : (⟨x, y, solidWhite, 1⟩ : Stroke) ∈
      surface.strokes (.circle (pixelCenter x y) endless solidWhite) := by
    have visible : isVisibleDisc endless solidWhite = true := rfl
    change _ ∈ surface.discStrokes _ _ _ _ _
    unfold discStrokes
    rw [if_pos visible, boxAround?_endless sound finite]
    have positive : (0 : Float32) < 1 := by decide
    refine Box.mem_strokes.mpr ⟨⟨⟨Nat.zero_le x, column⟩, Nat.zero_le y, row⟩, ?_, positive⟩
    rw [covered]
  have marks : (⟨x, y, solidWhite, 1⟩ : Stroke).Marks := by
    change ¬Single.clampUnit (1 * 1) ≤ 0
    decide
  rw [draw_eq]
  exact layAll_outside member marks (sound.pixels_size.trans_le outside)

/-- On a surface that does not clip down some disc faults. -/
theorem exists_disc_outside (sound : surface.IsSound) (grows : ¬surface.size.ClipsDown) :
    Exists fun center => Surface.draw (.circle center endless solidWhite) surface =
      .error .pixelOutside := by
  have kept {side : UInt32} (positive : 0 < side.toNat) : 0 < side.toFloat32.toUInt32.toNat := by
    have least : (2 : ℚ) ^ 0 ≤ side.toNat := by
      rw [pow_zero]
      exact_mod_cast positive
    have above := (rounds_toFloat32 side).ge (isValue_two_pow (by decide)) least
    rw [toNat_toUInt32, lt_min_iff]
    exact ⟨Nat.floor_pos.mpr (by rwa [pow_zero] at above), by decide⟩
  rw [PhysicalSize.ClipsDown, not_and_or, UInt32.not_le, UInt32.not_le, UInt32.lt_iff_toNat_lt,
    UInt32.lt_iff_toNat_lt] at grows
  rcases grows with wider | higher
  · -- The pixel behind the last row.  A side that is rounded is so long that
    -- the other one cannot be, so the last row is not lost.
    have long : 2 ^ 24 < surface.size.width.toNat := by
      by_contra short
      exact wider.ne' (toUInt32_toFloat32 (not_lt.mp short))
    have low : surface.size.height.toNat ≤ 2 ^ 24 := by
      by_contra high
      have beyond := Nat.mul_le_mul long.le (not_le.mp high).le
      exact absurd sound.area_lt (not_lt.mpr ((by decide : UInt32.size ≤ 2 ^ 24 * 2 ^ 24).trans beyond))
    have last : surface.size.height.toNat - 1 < surface.size.height.toFloat32.toUInt32.toNat := by
      rw [toUInt32_toFloat32 low]
      exact Nat.sub_one_lt sound.height_pos.ne'
    refine ⟨_, draw_endless_outside sound wider last ?_⟩
    rw [← Nat.add_one_mul, Nat.sub_add_cancel sound.height_pos, PhysicalSize.area, mul_comm]
  · -- The first pixel of the row below the last one.
    refine ⟨_, draw_endless_outside sound (kept sound.width_pos) higher ?_⟩
    rw [add_zero, PhysicalSize.area, mul_comm]

/-! ## Which surfaces are safe -/

/-- A surface that was made, and brought into any state by drawings and
resizes, is sound, so each of its pixels can be read.  Drawings that are no
discs never write anything else than its pixels and never fault.  Drawings of
every kind do so exactly if the sides clip down. -/
theorem drawsInside_iff_clipsDown {size : PhysicalSize} {history : List DrawCommand}
    {fresh surface : PixelSurface} (made : ofSize size = .ok fresh)
    (prepared : Surface.drawAll history fresh = .ok surface) :
    surface.IsSound ∧
      (forall x y, x < surface.size.width -> y < surface.size.height ->
        y.toNat * surface.size.width.toNat + x.toNat < UInt32.size ∧
          (surface.pixel? x y).isSome = true) ∧
      (forall commands : List DrawCommand,
        (forall command, command ∈ commands ->
          command.isDrawing = true ∧ command.isDisc = false) ->
        DrawsInside commands surface) ∧
      ((forall commands : List DrawCommand,
        (forall command, command ∈ commands -> command.isDrawing = true) ->
        DrawsInside commands surface) ↔ surface.size.ClipsDown) := by
  have sound := isSound_drawAll (isSound_ofSize made) prepared
  refine ⟨sound, fun x y column row => ?_, fun commands plain => ?_, fun safe => ?_, fun clips => ?_⟩
  · rcases sound.pixel?_eq_some column row with ⟨place, found⟩
    rw [sound.pixels_size] at place
    exact ⟨place.trans sound.area_lt, Option.isSome_of_eq_some found⟩
  · refine drawsInside sound (fun command member => (plain command member).1)
      fun command member disc => ?_
    exact absurd disc (by simp [(plain command member).2])
  · by_contra grows
    rcases exists_disc_outside sound grows with ⟨center, fault⟩
    have drawn := safe [.circle center endless solidWhite] fun command member => by
      rw [List.mem_singleton.mp member]
      rfl
    rcases drawn with ⟨-, -, next, drawn, -⟩
    cases fault.symm.trans drawn
  · exact fun commands drawings => drawsInside sound drawings fun _ _ _ => clips

/-- A surface of four by two pixels that was made smaller at first is safe. -/
theorem drawsInside_fourByTwo : Exists fun fresh => Exists fun surface =>
    ofSize ⟨3, 2⟩ = .ok fresh ∧
      Surface.drawAll [.clear solidWhite, .resize ⟨4, 2⟩] fresh = .ok surface ∧
      forall commands : List DrawCommand,
        (forall command, command ∈ commands -> command.isDrawing = true) ->
        DrawsInside commands surface := by
  have made : ofSize ⟨3, 2⟩ = .ok ⟨⟨3, 2⟩, Array.replicate 6 .transparent⟩ := rfl
  have prepared : Surface.drawAll [.clear solidWhite, .resize ⟨4, 2⟩]
      (⟨⟨3, 2⟩, Array.replicate 6 .transparent⟩ : PixelSurface) =
        .ok ⟨⟨4, 2⟩, Array.replicate 8 .transparent⟩ := rfl
  rcases drawsInside_iff_clipsDown made prepared with ⟨-, -, -, safe⟩
  exact ⟨_, _, made, prepared, safe.mpr (PhysicalSize.clipsDown_of_le (by decide) (by decide))⟩

theorem wideRow_clipped (wide : surface.size = ⟨16777219, 1⟩) :
    surface.boxAround? ⟨16777220, 0.5⟩ (10 + 1) = some ⟨16777209, 0, 16777220, 1⟩ := by
  unfold boxAround?
  rw [wide]
  refine (if_pos (by decide)).trans ?_
  congr 2

theorem draw_wideRow (sound : surface.IsSound) (wide : surface.size = ⟨16777219, 1⟩) :
    Surface.draw (.circle ⟨16777220, 0.5⟩ 10 solidWhite) surface = .error .pixelOutside := by
  have visible : isVisibleDisc 10 solidWhite = true := rfl
  have covered : circleCoverage ⟨16777220, 0.5⟩ 10 (pixelCenter 16777219 0) = 1 := by
    decide +kernel
  have positive : (0 : Float32) < 1 := by decide
  have member : (⟨16777219, 0, solidWhite, 1⟩ : Stroke) ∈
      surface.strokes (.circle ⟨16777220, 0.5⟩ 10 solidWhite) := by
    unfold strokes discStrokes
    simp only [visible, wideRow_clipped wide, if_true, Box.mem_strokes, covered]
    exact ⟨by norm_num, trivial, positive⟩
  have marks : (⟨16777219, 0, solidWhite, 1⟩ : Stroke).Marks := by
    change ¬Single.clampUnit (1 * 1) ≤ 0
    decide
  have outside : surface.pixels.size ≤ Stroke.index ⟨16777219, 0, solidWhite, 1⟩ surface.size := by
    rw [sound.pixels_size, wide]
    decide
  rw [draw_eq]
  exact layAll_outside member marks outside

/-- A row of `2 ^ 24 + 3` pixels is clipped at `2 ^ 24 + 4`, so a disc at its
end writes one pixel too many. -/
theorem wideRow_disc_outside : Exists fun fresh => ofSize ⟨16777219, 1⟩ = .ok fresh ∧
    Surface.draw (.circle ⟨16777220, 0.5⟩ 10 solidWhite) fresh = .error .pixelOutside := by
  have fits : (PhysicalSize.atLeastOne ⟨16777219, 1⟩).area < UInt32.size := by decide
  have made := ofSize_eq_ok.mpr ⟨fits, rfl⟩
  exact ⟨_, made, draw_wideRow (isSound_ofSize made) rfl⟩

end PixelSurface

end Starfield
