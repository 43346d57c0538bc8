import Starfield.Proofs.Number.Unit
import Starfield.Proofs.Surface.Boxes

namespace Starfield

/-!
# What shows on a surface

An opaque color that covers some of a pixel can be seen there, whatever else of
the same kind is laid over it.  So a gradient that is centered on a pixel of a
surface changes what the surface shows, however small the gradient is.
-/

/-- An opacity that can be laid over. -/
def Rgba.IsPlain (color : Rgba) : Prop :=
  IsFinite color.alpha ∧ 0 ≤ exact color.alpha

/-- Something of the color can be seen. -/
def Rgba.Shows (color : Rgba) : Prop :=
  IsFinite color.alpha ∧ 0 < exact color.alpha

theorem Rgba.Shows.isPlain {color : Rgba} (shows : color.Shows) : color.IsPlain :=
  ⟨shows.1, shows.2.le⟩

namespace PixelSurface

theorem shows_composite {color below : Rgba} {strength : Float32} (unit : IsUnit strength)
    (positive : 0 < exact strength) (plain : below.IsPlain) :
    (composite color strength below).Shows := by
  rcases plain with ⟨belowFinite, nonneg⟩
  rcases unit.complement with ⟨restFinite, restNonneg, restMost⟩
  have finite := unit.finite
  have most := unit.le_one
  have under := rounds_mul belowFinite restFinite
  have underNonneg := under.ge Exact.Representable.zero (mul_nonneg nonneg restNonneg)
  have underFinite : IsFinite (below.alpha * (1 - strength)) := by
    refine under.isFinite (lt_of_le_of_lt ?_ belowFinite.abs_exact_lt)
    refine under.within (isValue_exact below.alpha).abs ?_
    rw [abs_mul, abs_of_nonneg restNonneg]
    exact mul_le_of_le_one_right (abs_nonneg _) restMost
  have sum := rounds_add finite underFinite
  have above : exact strength ≤ exact (strength + below.alpha * (1 - strength)) :=
    sum.ge (isValue_exact strength) (by linarith)
  have sumFinite : IsFinite (strength + below.alpha * (1 - strength)) := by
    have small : |exact strength| < Exact.lastStep (Binary.format Float32) / 2 := by
      have step : Exact.lastStep (Binary.format Float32) = 2 ^ (104 : ℤ) := rfl
      rw [abs_of_pos positive, step]
      exact most.trans_lt (by norm_num)
    have turned := isFinite_add underFinite finite small
    have same := (rounds_add underFinite finite).exact_eq
    rw [add_comm, ← sum.exact_eq] at same
    refine sum.isFinite ?_
    rw [← same]
    exact turned.abs_exact_lt
  have left : ¬strength + below.alpha * (1 - strength) ≤ 0 := by
    rw [le_iff, exact_single_zero]
    exact fun ordered => ordered.2.2.not_gt (positive.trans_le above)
  unfold composite
  dsimp only
  rw [if_neg left]
  exact ⟨sumFinite, positive.trans_le above⟩

end PixelSurface

namespace Stroke

/-- Some of an opaque color. -/
structure IsBright (stroke : Stroke) : Prop where
  solid : stroke.color.alpha = 1
  finite : IsFinite stroke.coverage
  positive : 0 < exact stroke.coverage
  most : exact stroke.coverage ≤ 1

variable {stroke : Stroke}

theorem IsBright.strength_eq (bright : stroke.IsBright) :
    IsUnit (Single.clampUnit (stroke.color.alpha * stroke.coverage)) ∧
      exact (Single.clampUnit (stroke.color.alpha * stroke.coverage)) = exact stroke.coverage := by
  rcases bright with ⟨solid, finite, positive, most⟩
  have product := rounds_mul (x := (1 : Float32)) rfl finite
  rw [exact_single_one, one_mul] at product
  have kept := product.exact_eq_of_isValue (isValue_exact stroke.coverage)
  have clamped := clampUnit_spec product.defined
  rw [kept, min_eq_right most, max_eq_right positive.le] at clamped
  rw [solid]
  exact clamped

theorem IsBright.marks (bright : stroke.IsBright) : stroke.Marks := by
  unfold Marks
  rw [le_iff, exact_single_zero, bright.strength_eq.2]
  exact fun ordered => ordered.2.2.not_gt bright.positive

theorem IsBright.shows_mixed (bright : stroke.IsBright) {below : Rgba} (plain : below.IsPlain) :
    (stroke.mixed below).Shows := by
  have strength := bright.strength_eq
  exact PixelSurface.shows_composite strength.1 (strength.2 ▸ bright.positive)
    plain

end Stroke

/-! ## One pixel under many strokes -/

namespace PixelSurface

/-- Strokes change a pixel by those of them that lie on it, one after the
other. -/
theorem getElem?_layAll {strokes : List Stroke} {surface last : PixelSurface}
    (marks : forall stroke, stroke ∈ strokes -> stroke.Marks)
    (laid : surface.layAll strokes = .ok last) (place : ℕ) :
    last.pixels[place]? = surface.pixels[place]?.map fun below =>
      strokes.foldl (fun below stroke =>
        if stroke.index surface.size = place then stroke.mixed below else below) below := by
  induction strokes generalizing surface with
  | nil =>
      cases laid
      exact Option.map_id'.symm
  | cons stroke strokes ih =>
      rw [layAll, List.foldlM_cons, Outcome.bind_eq_ok] at laid
      rcases laid with ⟨next, first, rest⟩
      have size_eq := (sameShape_of_lay first).size_eq
      rw [ih (fun other member => marks other (List.mem_cons_of_mem stroke member)) rest, size_eq]
      rcases stroke.lay_cases surface with ⟨idle, -⟩ | ⟨-, inside, changed⟩ | ⟨-, -, refused⟩
      · exact absurd (marks stroke List.mem_cons_self) idle
      · cases first.symm.trans changed
        simp only [Array.getElem?_set, List.foldl_cons]
        by_cases on : stroke.index surface.size = place
        · subst on
          rw [if_pos rfl, Array.getElem?_eq_getElem inside, Option.map_some, Option.map_some,
            if_pos rfl]
        · simp only [if_neg on]
      · cases first.symm.trans refused

/-- A bright stroke on a pixel shows through the others. -/
theorem shows_foldl {strokes : List Stroke} {size : PhysicalSize} {place : ℕ}
    (bright : forall stroke, stroke ∈ strokes -> stroke.IsBright) {below : Rgba}
    (plain : below.IsPlain)
    (touched : below.Shows ∨ Exists fun stroke => stroke ∈ strokes ∧ stroke.index size = place) :
    (strokes.foldl (fun below stroke =>
      if stroke.index size = place then stroke.mixed below else below) below).Shows := by
  induction strokes generalizing below with
  | nil =>
      rcases touched with shows | ⟨_, member, -⟩
      · exact shows
      · cases member
  | cons stroke strokes ih =>
      have others (other : Stroke) (member : other ∈ strokes) : other.IsBright :=
        bright other (List.mem_cons_of_mem stroke member)
      rw [List.foldl_cons]
      by_cases on : stroke.index size = place
      · rw [if_pos on]
        have shows := (bright stroke List.mem_cons_self).shows_mixed plain
        exact ih others shows.isPlain (Or.inl shows)
      · rw [if_neg on]
        refine ih others plain (touched.imp_right fun ⟨other, member, same⟩ => ?_)
        rcases List.mem_cons.mp member with rfl | later
        · exact absurd same on
        · exact ⟨other, later, same⟩

/-! ## Gradients on a pixel -/

/-- Every stroke of an opaque gradient is bright. -/
theorem isBright_of_mem_gradient {surface : PixelSurface} {center : Point Float32}
    {radius : Float32} {color : Rgba} {stroke : Stroke} (solid : color.alpha = 1)
    (column : IsFinite center.x) (row : IsFinite center.y) (finite : IsFinite radius)
    (positive : 0 < exact radius)
    (member : stroke ∈ surface.strokes (.gradient center radius color)) : stroke.IsBright := by
  change stroke ∈ surface.discStrokes center radius radius color _ at member
  unfold discStrokes at member
  split_ifs at member
  · cases clipped : surface.boxAround? center radius with
    | none => rw [clipped] at member; cases member
    | some box =>
        rw [clipped] at member
        rcases Box.mem_strokes.mp member with ⟨-, same, covered⟩
        have places := isFinite_pixelCenter stroke.x stroke.y
        have length : (_ ∧ _) ∧ _ := Point.length_spec (p := pixelCenter stroke.x stroke.y - center)
          (rounds_sub places.1 column).defined (rounds_sub places.2 row).defined
        rw [same] at covered ⊢
        have part := falloff_le_one length.1.1 length.1.2 finite positive covered
        exact ⟨solid, part.1, part.2.1, part.2.2⟩
  · cases member

/-- Nothing is lost of a gradient in its center. -/
theorem gradientFalloff_center {place : Point Float32} {center : Point Float32} {radius : Float32}
    (column : IsFinite place.x ∧ IsFinite center.x ∧ exact place.x = exact center.x)
    (row : IsFinite place.y ∧ IsFinite center.y ∧ exact place.y = exact center.y)
    (finite : IsFinite radius) (positive : 0 < exact radius) :
    0 < gradientFalloff center radius place := by
  have apart {x y : Float32} (same : IsFinite x ∧ IsFinite y ∧ exact x = exact y) :
      IsFinite (x - y) ∧ exact (x - y) = 0 := by
    have difference := rounds_sub same.1 same.2.1
    rw [same.2.2, sub_self] at difference
    exact difference.spec_of_zero
  have length : _ ∧ _ := Point.length_of_origin (p := place - center) (apart column) (apart row)
  have quotient := rounds_div length.1 finite positive.ne'
  rw [length.2, zero_div] at quotient
  have rest := rounds_sub (x := (1 : Float32)) rfl quotient.spec_of_zero.1
  rw [quotient.spec_of_zero.2, sub_zero] at rest
  have everything := rest.exact_eq_of_isValue (isValue_exact 1)
  rw [exact_single_one] at everything
  unfold gradientFalloff
  rw [lt_iff, exact_single_zero]
  exact ⟨rfl, rest.defined, zero_lt_one.trans_eq everything.symm⟩

/-- A gradient that is centered on a pixel of a surface lays a stroke there. -/
theorem exists_stroke_of_center {surface : PixelSurface} {center : Point Float32}
    {radius : Float32} {color : Rgba} {x y : ℕ} (solid : color.alpha = 1)
    (columnFew : x < 2 ^ 23) (rowFew : y < 2 ^ 23) (inside : x < surface.size.width.toNat ∧
      y < surface.size.height.toNat) (column : IsFinite center.x ∧ exact center.x = x + 1 / 2)
    (row : IsFinite center.y ∧ exact center.y = y + 1 / 2) (finite : IsFinite radius)
    (positive : 0 < exact radius) :
    Exists fun stroke => stroke ∈ surface.strokes (.gradient center radius color) ∧
      stroke.index surface.size = y * surface.size.width.toNat + x := by
  have visible : isVisibleDisc radius color = true := by
    have above : ¬radius ≤ 0 := by
      rw [le_iff, exact_single_zero]
      exact fun ordered => ordered.2.2.not_gt positive
    have opaqueColor : ¬(1 : Float32) ≤ 0 := by decide
    unfold isVisibleDisc
    rw [solid, decide_eq_false above, decide_eq_false opaqueColor]
    rfl
  have near {n : ℕ} {middle : ℚ} (place : middle = n + 1 / 2) :
      |(n + 1 / 2 : ℚ) - middle| < exact radius := by
    rwa [place, sub_self, abs_zero]
  have columns := pixel_in_box columnFew column.1 finite.isDefined (near column.2) inside.1
  have rows := pixel_in_box rowFew row.1 finite.isDefined (near row.2) inside.2
  have places := isFinite_pixelCenter x y
  have covered : 0 < gradientFalloff center radius (pixelCenter x y) := gradientFalloff_center
    ⟨places.1, column.1, (exact_pixelCenter columnFew).trans column.2.symm⟩
    ⟨places.2, row.1, (exact_pixelCenter rowFew).trans row.2.symm⟩ finite positive
  refine ⟨⟨x, y, color, gradientFalloff center radius (pixelCenter x y)⟩, ?_, rfl⟩
  change _ ∈ surface.discStrokes center radius radius color _
  unfold discStrokes boxAround?
  rw [if_pos visible]
  dsimp only
  rw [if_pos ⟨columns.1, rows.1⟩]
  exact Box.mem_strokes.mpr ⟨⟨columns.2, rows.2⟩, rfl, covered⟩

end PixelSurface

end Starfield
