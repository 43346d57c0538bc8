import Starfield.Geometry.Viewport
import Starfield.Proofs.Number.Signed
import Starfield.Proofs.Number.Whole

namespace Starfield

/-!
# Sides in pixels

The sides and the ratio of a view are finite and at least one.  A side in
physical pixels is the whole number nearest to the scaled side, a half rounded
up, as far as a machine word can hold it.
-/

namespace Viewport

section Sides

variable (view : Viewport)

theorem isFinite_width : IsFinite view.width :=
  view.width_sound.2

theorem isFinite_height : IsFinite view.height :=
  view.height_sound.2

theorem one_le_exact_width : 1 ≤ exact view.width :=
  exact_single_one ▸ ((le_iff _ _).mp view.width_sound.1).2.2

theorem one_le_exact_height : 1 ≤ exact view.height :=
  exact_single_one ▸ ((le_iff _ _).mp view.height_sound.1).2.2

theorem exact_width_pos : 0 < exact view.width :=
  zero_lt_one.trans_le view.one_le_exact_width

theorem exact_height_pos : 0 < exact view.height :=
  zero_lt_one.trans_le view.one_le_exact_height

theorem isFinite_pixelRatio : IsFinite view.pixelRatio :=
  view.pixelRatio_sound.2

theorem one_le_exact_pixelRatio : 1 ≤ exact view.pixelRatio :=
  exact_double_one ▸ ((le_iff _ _).mp view.pixelRatio_sound.1).2.2

end Sides

/-! ## Physical pixels -/

theorem toNat_max_one (side : UInt32) : (max side 1).toNat = max side.toNat 1 := by
  change (if side ≤ 1 then (1 : UInt32) else side).toNat = _
  split_ifs with small
  · exact (max_eq_right (UInt32.le_iff_toNat_le.mp small)).symm
  · exact (max_eq_left (UInt32.le_iff_toNat_le.mp (UInt32.le_of_lt (UInt32.not_le.mp small)))).symm

theorem toNat_max_one_pos (side : UInt32) : 0 < (max side 1).toNat := by
  rw [toNat_max_one]
  exact lt_max_of_lt_right one_pos

theorem physicalSide_pos (side : Float32) (ratio : Float) : 0 < (physicalSide side ratio).toNat :=
  toNat_max_one_pos _

variable {side : Float32} {ratio : Float}

theorem toNat_physicalSide (finite : IsFinite side) (ratioFinite : IsFinite ratio)
    (nonneg : 0 ≤ exact side * exact ratio) : (physicalSide side ratio).toNat =
      max (min ⌊roundTo Float (exact side * exact ratio) + 1 / 2⌋₊ (UInt32.size - 1)) 1 := by
  have product := rounds_mul (isFinite_widen finite) ratioFinite
  rw [exact_widen finite] at product
  have positive := product.ge Exact.Representable.zero nonneg
  unfold physicalSide
  rw [toNat_max_one, toNat_double_toUInt32, ← product.exact_eq]
  congr 2
  by_cases inside : IsFinite (widen side * ratio)
  · rw [Double.exact_round inside positive, ← Int.floor_toNat, Int.floor_intCast, Int.floor_toNat]
  · have kept : Double.round (Binary.infinity false) = Binary.infinity false := rfl
    have top : Exists fun n : ℕ => exact (Binary.infinity false : Float) = n :=
      ⟨2 ^ 1024, limit_double.trans (by rw [Nat.cast_pow, Nat.cast_two])⟩
    rcases top with ⟨n, top⟩
    rw [eq_infinity product.defined inside positive, kept, top, Nat.floor_natCast, eq_comm,
      Nat.floor_eq_iff (by positivity)]
    constructor <;> linarith

/-- A view with fewer pixels than a machine word can count has no large ratio. -/
theorem pixelRatio_lt {view : Viewport} (fits : view.physicalSize.area < UInt32.size) :
    exact view.pixelRatio < 2 ^ 32 := by
  by_contra large
  have power : IsValue Float (2 ^ 32) := by
    exact_mod_cast isValue_double_natCast (n := 2 ^ 32) (by decide)
  have most {side : Float32} (finite : IsFinite side) (long : 1 ≤ exact side) :
      UInt32.size - 1 ≤ (physicalSide side view.pixelRatio).toNat := by
    have scaled : 2 ^ 32 ≤ exact side * exact view.pixelRatio :=
      (not_lt.mp large).trans (le_mul_of_one_le_left (by linarith [view.one_le_exact_pixelRatio]) long)
    have rounded : 2 ^ 32 ≤ roundTo Float (exact side * exact view.pixelRatio) :=
      Exact.le_rounded power scaled
    rw [toNat_physicalSide finite view.isFinite_pixelRatio (le_trans (by norm_num) scaled)]
    refine le_max_of_le_left (le_min ?_ le_rfl)
    refine (Nat.sub_le _ _).trans (Nat.le_floor ?_)
    exact le_trans (by norm_num) (rounded.trans (by linarith))
  have area := Nat.mul_le_mul (most view.isFinite_width view.one_le_exact_width)
    (most view.isFinite_height view.one_le_exact_height)
  exact absurd fits (not_lt.mpr (le_trans (by decide) area))

/-- The ratio that drawings are scaled by. -/
theorem scale_spec {view : Viewport} (fits : view.physicalSize.area < UInt32.size) :
    IsFinite (narrow view.pixelRatio) ∧ Rounds (narrow view.pixelRatio) (exact view.pixelRatio) ∧
      1 ≤ exact (narrow view.pixelRatio) := by
  have narrowed := rounds_narrow view.isFinite_pixelRatio
  have one := isValue_two_pow (n := 0) (by decide)
  rw [pow_zero] at one
  have least := narrowed.ge one view.one_le_exact_pixelRatio
  refine ⟨narrowed.isFinite ?_, narrowed, least⟩
  have most := narrowed.le (isValue_two_pow (n := 32) (by decide)) (pixelRatio_lt fits).le
  rw [abs_of_nonneg (zero_le_one.trans least), limit_single]
  exact most.trans_lt (pow_lt_pow_right₀ one_lt_two (by decide))

/-! ## Ratios that scale without rounding -/

section PowersOfTwo

variable {count : ℕ} (finite : IsFinite side) (long : 1 ≤ exact side)
  (ratioFinite : IsFinite ratio) (power : exact ratio = 2 ^ count) (small : count < 32)

include finite long ratioFinite power small

/-- A side in pixels does not end behind the middle of its last pixel. -/
theorem physicalSide_le : (physicalSide side ratio).toNat ≤ exact side * exact ratio + 1 / 2 := by
  have scaled : IsValue Float (exact side * exact ratio) := by
    rw [power]
    refine (isValue_double_of_single (isValue_exact side)).mul_two_pow ?_
    have inside := finite.abs_exact_lt
    rw [limit_single] at inside
    calc |exact side * 2 ^ count| = |exact side| * 2 ^ count := by
          rw [abs_mul, abs_of_pos (by positivity : (0 : ℚ) < 2 ^ count)]
      _ ≤ 2 ^ 128 * 2 ^ 32 := by gcongr; norm_num
      _ = 2 ^ 160 := by norm_num
      _ ≤ 2 ^ 1024 := pow_le_pow_right₀ one_le_two (by decide)
  have least : 1 ≤ exact side * exact ratio := by
    rw [power]
    exact long.trans (le_mul_of_one_le_right (by linarith) (one_le_pow₀ one_le_two))
  rw [toNat_physicalSide finite ratioFinite (by linarith), roundTo, scaled.rounded_eq, Nat.cast_max,
    Nat.cast_min]
  refine max_le ((min_le_left _ _).trans (Nat.floor_le (by linarith))) ?_
  rw [Nat.cast_one]
  linarith

/-- A side of many pixels ends where the scaled side ends, or before it. -/
theorem exact_toFloat32_physicalSide_le (large : 2 ^ 23 < (physicalSide side ratio).toNat) :
    exact (physicalSide side ratio).toFloat32 ≤ exact side * exact ratio := by
  have above := physicalSide_le finite long ratioFinite power small
  have converted := rounds_toFloat32 (physicalSide side ratio)
  rcases le_or_gt (2 ^ 32) (exact side * exact ratio) with wide | narrow
  · refine (converted.le (isValue_two_pow (n := 32) (by decide)) ?_).trans wide
    exact_mod_cast (physicalSide side ratio).toNat_lt.le
  · have pixels : (2 : ℚ) ^ 23 + 1 ≤ (physicalSide side ratio).toNat := by exact_mod_cast large
    have scaled : IsValue Float32 (exact side * exact ratio) := by
      rw [power] at above narrow ⊢
      refine (isValue_exact side).mul_two_pow ?_
      rw [abs_of_nonneg (by linarith)]
      exact narrow.le.trans (pow_le_pow_right₀ one_le_two (by decide))
    have whole := scaled.eq_floor (x := exact side * exact ratio) (by
      change (2 : ℚ) ^ 23 ≤ _
      linarith)
    refine converted.le scaled ?_
    rw [whole] at above ⊢
    have counted : (((physicalSide side ratio).toNat : ℤ) : ℚ) <
        ((⌊exact side * exact ratio⌋ + 1 : ℤ) : ℚ) := by
      push_cast
      linarith
    exact_mod_cast Int.lt_add_one_iff.mp (Int.cast_lt.mp counted)

end PowersOfTwo

end Viewport

end Starfield
