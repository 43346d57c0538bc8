import Starfield.Proofs.Geometry.Viewport
import Starfield.Proofs.Number.Scaling
import Starfield.Proofs.Surface.Coverage

namespace Starfield

open PixelSurface (Misses pixelCenter_le)

/-!
# Edges of a view

On one axis, a disc is culled before the near edge or behind the far one, by
numbers in logical pixels.  What follows for the scaled numbers that it is
painted with depends on the ratio.  Before the near edge nothing can go wrong.
Behind the far one, powers of two keep every distance, and any other ratio
moves the disc by a small part of how far away it is.
-/

/-- The scaled side ends in the middle of its last pixel: it ended half-way
between two whole numbers and was rounded up. -/
def Viewport.EndsHalfWay (side : Float32) (ratio : Float) : Prop :=
  exact side * exact ratio = (physicalSide side ratio).toNat - 1 / 2

section Axis

variable {center radius scale place : Float32} {side : Float32}

theorem sum_nonpos_of_not_pos (finite : IsFinite center) (otherFinite : IsFinite radius)
    (below : ¬0 < center + radius) : exact center + exact radius ≤ 0 := by
  have sum := rounds_add finite otherFinite
  rw [lt_iff, exact_single_zero, not_and, not_and] at below
  have nothing := not_lt.mp (below rfl sum.defined)
  rw [sum.exact_eq] at nothing
  exact (isValue_exact center).add_nonpos_of_rounded (isValue_exact radius) nothing

/-- Before the near edge: scaling does not bring a disc into the view. -/
theorem standsOff_before (finite : IsFinite center) (otherFinite : IsFinite radius)
    (scaleFinite : IsFinite scale) (positive : 0 ≤ exact scale) (placed : 0 ≤ exact place)
    (before : exact center + exact radius ≤ 0) :
    StandsOff (center * scale) (radius * scale) place := by
  have scaledCenter := rounds_mul finite scaleFinite
  have scaledRadius := rounds_mul otherFinite scaleFinite
  have opposite : exact (center * scale) ≤ -exact (radius * scale) := by
    have ordered : exact center * exact scale ≤ -(exact radius * exact scale) := by
      rw [← neg_mul]
      exact mul_le_mul_of_nonneg_right (by linarith) positive
    rw [scaledCenter.exact_eq, scaledRadius.exact_eq, roundTo, roundTo, ← Exact.rounded_neg]
    exact Exact.rounded_mono ordered
  intro _
  refine le_trans ?_ (le_abs_self _)
  linarith

/-- Behind the far edge: a disc that begins behind a place does not reach it. -/
theorem standsOff_behind (behind : IsFinite center ->
    exact place ≤ exact center - exact radius) : StandsOff center radius place := by
  intro finite
  rw [abs_sub_comm]
  exact le_trans (by linarith [behind finite]) (le_abs_self _)

theorem one_le_of_edge (finite : IsFinite center) (otherFinite : IsFinite radius)
    (long : 1 ≤ exact side) (edge : exact side ≤ exact (center - radius)) :
    1 / 2 < exact center - exact radius := by
  have difference := rounds_sub finite otherFinite
  have half := isValue_exact (0.5 : Float32)
  rw [exact_single_half] at half
  by_contra short
  linarith [difference.le half (not_lt.mp short)]

section PowersOfTwo

variable {count : ℕ} (finite : IsFinite center) (otherFinite : IsFinite radius)
  (nonneg : 0 ≤ exact radius) (scaleFinite : IsFinite scale) (power : exact scale = 2 ^ count)
  (long : 1 ≤ exact side) (edge : exact side ≤ exact (center - radius))

include finite otherFinite nonneg scaleFinite power long edge

/-- A power of two scales a disc behind an edge without rounding. -/
theorem scaled_of_edge (inside : IsFinite (center * scale)) :
    exact (center * scale) = exact center * 2 ^ count ∧
      exact (radius * scale) = exact radius * 2 ^ count ∧ IsFinite (radius * scale) := by
  have apart := one_le_of_edge finite otherFinite long edge
  have place := exact_mul_two_pow finite (by linarith) scaleFinite power inside
  have product := rounds_mul otherFinite scaleFinite
  rw [power] at product
  have within : |exact radius * 2 ^ count| ≤ exact (center * scale) := by
    rw [place, abs_of_nonneg (by positivity)]
    gcongr
    linarith
  have below := (abs_lt.mp inside.abs_exact_lt).2
  have reach := product.spec_of_isValue
    ((isValue_exact radius).mul_two_pow (within.trans below.le)) (within.trans_lt below)
  exact ⟨place, reach.2, reach.1⟩

/-- If the scaled side ends behind the middle of its last pixel, so does
everything that is culled at the edge begin behind it. -/
theorem behind_of_edge {pixels : ℕ} (some : 0 < pixels) (few : pixels ≤ 2 ^ 23) (small : count ≤ 32)
    (beyond : pixels - 1 / 2 < exact side * 2 ^ count) (inside : IsFinite (center * scale)) :
    pixels - 1 / 2 ≤ exact (center * scale) - exact (radius * scale) := by
  have factor : (0 : ℚ) < 2 ^ count := by positivity
  have difference := rounds_sub finite otherFinite
  -- The middle of the last pixel in logical coordinates.
  have middle : IsValue Float32 ((pixels - 1 / 2) / 2 ^ count) := by
    refine ⟨⟨2 * pixels - 1, -1 - count, ?_, ?_, ?_⟩, ?_⟩
    · push_cast
      rw [zpow_sub₀ two_ne_zero, zpow_neg_one, zpow_natCast]
      ring
    · rw [abs_of_nonneg (by omega)]
      change (2 * pixels - 1 : ℤ) < 2 ^ 24
      omega
    · change (-149 : ℤ) ≤ _
      omega
    · have first : (1 : ℚ) ≤ pixels := by exact_mod_cast some
      have last : (pixels : ℚ) ≤ 2 ^ 23 := by exact_mod_cast few
      rw [abs_of_nonneg (div_nonneg (by linarith) factor.le)]
      calc ((pixels : ℚ) - 1 / 2) / 2 ^ count ≤ pixels - 1 / 2 :=
            div_le_self (by linarith) (one_le_pow₀ one_le_two)
        _ ≤ 2 ^ 23 := by linarith
        _ ≤ 2 ^ 128 := pow_le_pow_right₀ one_le_two (by decide)
  have above : (pixels - 1 / 2) / 2 ^ count < exact center - exact radius := by
    by_contra short
    have rounded := difference.le middle (not_lt.mp short)
    have scaled := (le_div_iff₀ factor).mp (edge.trans rounded)
    linarith
  rcases scaled_of_edge finite otherFinite nonneg scaleFinite power long edge inside with
    ⟨place, reach, -⟩
  rw [place, reach, ← sub_mul]
  exact ((div_lt_iff₀ factor).mp above).le

/-- The rounded begin of the scaled disc is not before the rounded end of the
scaled side. -/
theorem le_begin_of_edge {pixels : UInt32} (most : exact pixels.toFloat32 ≤ exact side * 2 ^ count)
    (inside : IsFinite (center * scale)) :
    IsDefined (center * scale - radius * scale) ∧
      exact pixels.toFloat32 ≤ exact (center * scale - radius * scale) := by
  have apart := one_le_of_edge finite otherFinite long edge
  rcases scaled_of_edge finite otherFinite nonneg scaleFinite power long edge inside with
    ⟨place, reach, otherInside⟩
  have difference := rounds_sub inside otherInside
  rw [place, reach, ← sub_mul] at difference
  rw [(rounds_sub finite otherFinite).exact_eq] at edge
  refine ⟨difference.defined, ?_⟩
  rw [difference.exact_eq]
  refine le_trans (le_min ((le_abs_self _).trans (isValue_exact _).bounded) most) ?_
  exact Exact.le_rounded_mul_two_pow (by linarith) (spacing_ne_of_large apart.le) (by linarith)
    edge count

end PowersOfTwo

section Reach

variable {reach : ℚ} (finite : IsFinite center) (otherFinite : IsFinite radius)
  (nonneg : 0 ≤ exact radius) (scaleFinite : IsFinite scale) (enlarges : 1 ≤ exact scale)
  (long : 1 ≤ exact side) (edge : exact side ≤ exact (center - radius))
  (inside : IsFinite (center * scale))

include finite otherFinite nonneg scaleFinite enlarges long edge inside

/-- No number is nearer to the end than the scaled center. -/
theorem isFinite_of_edge : IsFinite (center - radius) ∧ IsFinite (radius * scale) := by
  have apart := one_le_of_edge finite otherFinite long edge
  have difference := rounds_sub finite otherFinite
  have width := rounds_mul otherFinite scaleFinite
  constructor
  · refine difference.isFinite ?_
    rw [abs_of_nonneg (by linarith)]
    have close := difference.le (isValue_exact center) (by linarith)
    exact close.trans_lt (abs_lt.mp finite.abs_exact_lt).2
  · refine width.isFinite ?_
    rw [abs_of_nonneg (width.ge .zero (by positivity))]
    refine lt_of_le_of_lt ?_ (abs_lt.mp inside.abs_exact_lt).2
    rw [width.exact_eq, (rounds_mul finite scaleFinite).exact_eq]
    exact Exact.rounded_mono (mul_le_mul_of_nonneg_right (by linarith) (by linarith))

/-- Three roundings, of the difference and of the two products, cost a share of
the reach each. -/
theorem scaled_gap_of_edge (near : exact center ≤ reach) :
    (exact side - 3 * (reach / 2 ^ 24)) * exact scale ≤
      exact (center * scale) - exact (radius * scale) := by
  have apart := one_le_of_edge finite otherFinite long edge
  rcases isFinite_of_edge finite otherFinite nonneg scaleFinite enlarges long edge inside with
    ⟨differenceInside, widthInside⟩
  set share := reach / 2 ^ 24 with share_eq
  have scaled {z : ℚ} (low : 0 ≤ z) (high : z ≤ reach) :
      |z * exact scale| ≤ reach * exact scale := by
    rw [abs_of_nonneg (by positivity)]
    gcongr
  have size : 1 / 2 ≤ reach * exact scale := by nlinarith
  have same : reach * exact scale / 2 ^ 24 = share * exact scale := by
    rw [share_eq]
    ring
  have edgeError : |exact (center - radius) - (exact center - exact radius)| ≤ share :=
    (rounds_sub finite otherFinite).abs_sub_le differenceInside (by linarith)
      (by rw [abs_of_nonneg (by linarith)]; linarith)
  have placeError := (rounds_mul finite scaleFinite).abs_sub_le inside size
    (scaled (by linarith) near)
  have widthError := (rounds_mul otherFinite scaleFinite).abs_sub_le widthInside size
    (scaled nonneg (by linarith))
  rw [same] at placeError widthError
  have gap : exact side - share ≤ exact center - exact radius := by
    linarith [(abs_le.mp edgeError).2]
  have product := mul_le_mul_of_nonneg_right gap (by linarith : 0 ≤ exact scale)
  linarith [(abs_le.mp placeError).1, (abs_le.mp widthError).2]

end Reach

/-- With any other ratio a disc is scaled inexactly, by no more than a small
part of how far away it is. -/
theorem behind_of_reach {ratio : Float} {middle reach : ℚ} (finite : IsFinite center)
    (otherFinite : IsFinite radius) (nonneg : 0 ≤ exact radius) (scaleFinite : IsFinite scale)
    (narrowed : Rounds scale (exact ratio)) (enlarges : 1 ≤ exact ratio) (long : 1 ≤ exact side)
    (edge : exact side ≤ exact (center - radius)) (near : exact center ≤ reach)
    (start : 0 ≤ middle)
    (clears : middle + reach * exact ratio / 2 ^ 21 ≤ exact side * exact ratio)
    (inside : IsFinite (center * scale)) :
    middle ≤ exact (center * scale) - exact (radius * scale) := by
  have one := isValue_exact (1 : Float32)
  rw [exact_single_one] at one
  have scaleEnlarges := narrowed.ge one enlarges
  have behind := scaled_gap_of_edge finite otherFinite nonneg scaleFinite scaleEnlarges long edge
    inside near
  have apart := one_le_of_edge finite otherFinite long edge
  have close : exact side ≤ reach :=
    (edge.trans ((rounds_sub finite otherFinite).le (isValue_exact center) (by linarith))).trans near
  set share := reach / 2 ^ 24 with share_eq
  have share_nonneg : 0 ≤ share := div_nonneg (by linarith) (by positivity)
  have eight : reach * exact ratio / 2 ^ 21 = 8 * share * exact ratio := by
    rw [share_eq]
    ring
  rw [eight] at clears
  have ordered : 8 * share ≤ exact side :=
    le_of_mul_le_mul_right (by linarith) (by linarith : 0 < exact ratio)
  -- The fourth rounding is that of the scale.
  have scaleError : |exact scale - exact ratio| ≤ exact ratio / 2 ^ 24 :=
    narrowed.abs_sub_le scaleFinite (by linarith) (abs_of_nonneg (by linarith)).le
  have slower : (exact side - 4 * share) * exact ratio ≤ (exact side - 3 * share) * exact scale := by
    have least : exact ratio - exact ratio / 2 ^ 24 ≤ exact scale := by
      linarith [(abs_le.mp scaleError).1]
    have product := mul_le_mul_of_nonneg_left least (by linarith : 0 ≤ exact side - 3 * share)
    have small : (exact side - 3 * share) * (exact ratio / 2 ^ 24) ≤ share * exact ratio := by
      calc (exact side - 3 * share) * (exact ratio / 2 ^ 24) ≤ reach * (exact ratio / 2 ^ 24) := by
            gcongr
            linarith
        _ = share * exact ratio := by
            rw [share_eq]
            ring
    linarith
  have rest : 0 ≤ share * exact ratio := mul_nonneg share_nonneg (by linarith)
  linarith

/-- Everything that is culled at an edge which the middle of the last pixel does
not lie on misses the side. -/
theorem misses_of_power {ratio : Float} {count : ℕ} (finite : IsFinite center)
    (otherFinite : IsFinite radius) (nonneg : 0 ≤ exact radius) (scaleFinite : IsFinite scale)
    (power : exact scale = 2 ^ count) (ratioFinite : IsFinite ratio)
    (ratioPower : exact ratio = 2 ^ count) (small : count < 32) (sideFinite : IsFinite side)
    (long : 1 ≤ exact side) (clear : ¬Viewport.EndsHalfWay side ratio)
    (edge : exact side ≤ exact (center - radius)) :
    Misses (center * scale) (radius * scale) (Viewport.physicalSide side ratio) := by
  by_cases inside : IsFinite (center * scale)
  · rcases le_or_gt (Viewport.physicalSide side ratio).toNat (2 ^ 23) with few | many
    · have most := Viewport.physicalSide_le sideFinite long ratioFinite ratioPower small
      have beyond : (Viewport.physicalSide side ratio).toNat - 1 / 2 < exact side * 2 ^ count := by
        unfold Viewport.EndsHalfWay at clear
        rw [ratioPower] at clear most
        exact lt_of_le_of_ne (by linarith) (Ne.symm clear)
      refine Or.inl fun n bounded => standsOff_behind fun _ => ?_
      exact (pixelCenter_le few bounded).trans (behind_of_edge finite otherFinite nonneg scaleFinite
        power long edge (Viewport.physicalSide_pos side ratio) few small.le beyond inside)
    · have most := Viewport.exact_toFloat32_physicalSide_le sideFinite long ratioFinite ratioPower
        small many
      rw [ratioPower] at most
      exact Or.inr ⟨many, le_begin_of_edge finite otherFinite nonneg scaleFinite power long edge most
        inside⟩
  · exact Or.inl fun _ _ infinite => absurd infinite inside

/-! ## On an edge -/

/-- A radius that is lost when it is taken from a side. -/
def speck : Float32 :=
  8.673617379884035e-19

theorem exact_speck : exact speck = 1 / 2 ^ 60 := by
  rw [exact_of_unpack (x := speck) (u := .finite .positive 8388608 (-83) (by decide)) rfl]
  change ((8388608 : ℕ) : ℚ) * 2 ^ (-83 : ℤ) = _
  norm_num

theorem isFinite_speck : IsFinite speck :=
  rfl

theorem exact_sub_speck (finite : IsFinite side) (long : 1 ≤ exact side) :
    exact (side - speck) = exact side := by
  have difference := rounds_sub finite isFinite_speck
  have high := le_spacing_single (n := 0) (by rwa [pow_zero, div_one] : 1 / 2 ^ 0 ≤ exact side)
  have step : (2 : ℚ) ^ (-23 : ℤ) ≤ 2 ^ Exact.spacing (Binary.format Float32) (exact side) :=
    zpow_le_zpow_right₀ one_le_two (by omega)
  rw [difference.exact_eq, exact_speck]
  refine Exact.rounded_sub_of_le_quarter (isValue_exact side) (by linarith)
    (spacing_ne_of_large (by linarith)) (by positivity) ?_
  exact le_trans (by norm_num) (div_le_div_of_nonneg_right step (by norm_num))

/-- A side that ends half-way is scaled to the middle of its last pixel. -/
theorem scaled_side_of_half {ratio : Float} {count : ℕ} (finite : IsFinite side)
    (scaleFinite : IsFinite scale) (power : exact scale = 2 ^ count)
    (ratioPower : exact ratio = 2 ^ count) (half : Viewport.EndsHalfWay side ratio) :
    (Viewport.physicalSide side ratio).toNat - 1 < 2 ^ 23 ∧ IsFinite (side * scale) ∧
      exact (side * scale) = ((Viewport.physicalSide side ratio).toNat - 1 : ℕ) + 1 / 2 := by
  have some := Viewport.physicalSide_pos side ratio
  have bound := (Viewport.physicalSide side ratio).toNat_lt
  unfold Viewport.EndsHalfWay at half
  set pixels := (Viewport.physicalSide side ratio).toNat
  have first : (1 : ℚ) ≤ pixels := by exact_mod_cast some
  have most : (pixels : ℚ) < 2 ^ 32 := by exact_mod_cast bound
  rw [ratioPower] at half
  have product := rounds_mul finite scaleFinite
  rw [power] at product
  have inside : |exact side * 2 ^ count| < limit Float32 := by
    rw [half, abs_of_nonneg (by linarith)]
    exact lt_trans (by linarith) (pow_lt_pow_right₀ one_lt_two (by decide : 32 < 128))
  have value := (isValue_exact side).mul_two_pow inside.le
  rcases product.spec_of_isValue value inside with ⟨placed, place⟩
  rw [half] at place value
  refine ⟨?_, placed, ?_⟩
  · by_contra many
    -- Numbers that large have no halves.
    have large : (2 : ℚ) ^ 23 + 1 ≤ pixels := by
      have counted : 2 ^ 23 + 1 ≤ pixels := by omega
      exact_mod_cast counted
    have whole := value.eq_floor (x := (pixels : ℚ) - 1 / 2) (by
      change (2 : ℚ) ^ 23 ≤ _
      linarith)
    set floor := ⌊(pixels : ℚ) - 1 / 2⌋
    have doubled : ((2 * pixels - 1 : ℤ) : ℚ) = ((2 * floor : ℤ) : ℚ) := by
      push_cast
      linarith
    have odd : (2 * pixels - 1 : ℤ) = 2 * floor := by exact_mod_cast doubled
    omega
  · rw [place, Nat.cast_sub some]
    push_cast
    ring

/-- The middle of the first pixel, in logical coordinates. -/
theorem scaled_first_middle {count : ℕ} (scaleFinite : IsFinite scale)
    (power : exact scale = 2 ^ count) (small : count < 32) :
    IsFinite (0.5 / scale) ∧ IsFinite (0.5 / scale * scale) ∧
      exact (0.5 / scale * scale) = (0 : ℕ) + 1 / 2 := by
  have factor : (0 : ℚ) < 2 ^ count := by positivity
  have quotient := rounds_div (x := (0.5 : Float32)) rfl scaleFinite (power ▸ factor.ne')
  rw [power, exact_single_half] at quotient
  have value : IsValue Float32 (1 / 2 / 2 ^ count) := by
    have power_eq : (1 : ℚ) / 2 / 2 ^ count = 2 ^ (-1 - count : ℤ) := by
      rw [zpow_sub₀ two_ne_zero, zpow_neg_one, zpow_natCast, one_div]
    rw [power_eq]
    refine Exact.representable_two_zpow ?_ ?_
    · change (-149 : ℤ) ≤ _
      omega
    · exact (zpow_le_one_of_nonpos₀ one_le_two (by omega)).trans (one_le_pow₀ one_le_two)
  have room : (1 : ℚ) / 2 < limit Float32 :=
    lt_of_lt_of_le (by norm_num) (one_le_pow₀ one_le_two)
  have short : (1 : ℚ) / 2 / 2 ^ count ≤ 1 / 2 :=
    div_le_self (by norm_num) (one_le_pow₀ one_le_two)
  rcases quotient.spec_of_isValue value
    ((abs_of_pos (by positivity)).trans_lt (short.trans_lt room)) with ⟨inside, place⟩
  have product := rounds_mul inside scaleFinite
  rw [place, power, div_mul_cancel₀ _ factor.ne'] at product
  have half := isValue_exact (0.5 : Float32)
  rw [exact_single_half] at half
  have middle := product.spec_of_isValue half ((abs_of_pos (by norm_num)).trans_lt room)
  rw [Nat.cast_zero, zero_add]
  exact ⟨inside, middle⟩

theorem scaled_speck {count : ℕ} (scaleFinite : IsFinite scale) (power : exact scale = 2 ^ count)
    (small : count < 32) : IsFinite (speck * scale) ∧ 0 < exact (speck * scale) := by
  have product := rounds_mul isFinite_speck scaleFinite
  rw [power] at product
  have most : exact speck * 2 ^ count ≤ 1 := by
    rw [exact_speck]
    calc (1 : ℚ) / 2 ^ 60 * 2 ^ count ≤ 1 / 2 ^ 60 * 2 ^ 32 := by gcongr; norm_num
      _ ≤ 1 := by norm_num
  have some : 0 < exact speck * 2 ^ count := by
    rw [exact_speck]
    positivity
  have inside : |exact speck * 2 ^ count| < limit Float32 := by
    rw [abs_of_pos some]
    exact most.trans_lt (one_lt_pow₀ one_lt_two (by decide))
  rcases product.spec_of_isValue ((isValue_exact speck).mul_two_pow inside.le) inside with
    ⟨finite, reach⟩
  rw [reach]
  exact ⟨finite, some⟩

end Axis

end Starfield
