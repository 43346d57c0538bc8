import Starfield.Color
import Starfield.Proofs.Number.Remainder
import Starfield.Proofs.Number.Unit

namespace Starfield

/-!
# The channels of a hue

A channel of a color lies between a faint and a full level, by the turn of its
hue.  It rises over the first sixth of a turn and falls over the one behind the
half.  The levels are numbers between zero and one.  Their difference is taken
by a sixfold part that is at most the whole, with one exception: the two thirds
are rounded up, so that on the half turn, where the channel begins to fall, it
comes to more than the whole.  There the full level can be exceeded, and only
there.
-/

theorem exact_single_six : exact (6 : Float32) = 6 := by
  rw [exact_of_unpack (u := .finite .positive 12582912 (-21) (by decide)) rfl]
  norm_num [Exact.value, Exact.signed]

/-- A sixth is rounded up. -/
theorem exact_sixth : exact (1 / 6 : Float32) = 11184811 / 2 ^ 26 := by
  rw [exact_of_unpack (u := .finite .positive 11184811 (-26) (by decide)) rfl]
  norm_num [Exact.value, Exact.signed]

/-- Two thirds are rounded up. -/
theorem exact_twoThirds : exact (2 / 3 : Float32) = 11184811 / 2 ^ 24 := by
  rw [exact_of_unpack (u := .finite .positive 11184811 (-24) (by decide)) rfl]
  norm_num [Exact.value, Exact.signed]

namespace Rgb

/-! ## Levels -/

/-- The level that a channel is at for a third of a turn. -/
def fullLevel (saturation lightness : Float32) : Float32 :=
  if lightness < 0.5 then lightness * (1 + saturation)
  else lightness + saturation - lightness * saturation

/-- The level that a channel is at for another third. -/
def faintLevel (saturation lightness : Float32) : Float32 :=
  2 * lightness - fullLevel saturation lightness

/-- Levels between zero and one.  Those of a light color can be out of order,
by rounding. -/
structure AreLevels (faint full : Float32) : Prop where
  faint_unit : IsUnit faint
  full_unit : IsUnit full
  order : exact faint ≤ exact full ∨ exact faint - exact full ≤ 1 / 2 ^ 22 ∧ 1 / 4 ≤ exact full

variable {saturation lightness : Float32}

theorem two_mul_of_isUnit {x : Float32} (unit : IsUnit x) :
    IsFinite (2 * x) ∧ exact (2 * x) = 2 * exact x := by
  rcases exact_two_mul unit.finite unit.nonneg with ⟨defined, double⟩
  have small : 2 * exact x ≤ 2 := by linarith [unit.le_one]
  have room : (2 : ℚ) < limit Float32 := by
    rw [limit_single]
    norm_num
  rw [min_eq_right (small.trans room.le)] at double
  refine ⟨(isFinite_iff _).mpr ⟨defined, ?_⟩, double⟩
  rw [double, abs_of_nonneg (by linarith [unit.nonneg])]
  exact small.trans_lt room

theorem rounds_faintLevel (unit : IsUnit lightness)
    (full : IsUnit (fullLevel saturation lightness)) :
    Rounds (faintLevel saturation lightness)
      (2 * exact lightness - exact (fullLevel saturation lightness)) := by
  rcases two_mul_of_isUnit unit with ⟨finite, double⟩
  rw [← double]
  exact rounds_sub finite full.finite

/-- What is known of the levels: they lie as levels do, and rounding leads the
full one above the exact one by at most four half steps of the numbers from one
on. -/
structure LevelsOf (saturation lightness : Float32) : Prop where
  levels : AreLevels (faintLevel saturation lightness) (fullLevel saturation lightness)
  near : exact (fullLevel saturation lightness) ≤
    1 - (1 - exact saturation) * (1 - exact lightness) + 1 / 2 ^ 22

/-- Below the half the full level lies between the lightness and its double. -/
theorem levelsOf_of_dark (saturated : IsUnit saturation) (unit : IsUnit lightness)
    (dark : exact lightness < 1 / 2) : LevelsOf saturation lightness := by
  have below : lightness < 0.5 := by
    rw [lt_iff, exact_single_half]
    exact ⟨unit.finite.isDefined, rfl, dark⟩
  have full_eq : fullLevel saturation lightness = lightness * (1 + saturation) := if_pos below
  have sum := rounds_add (x := (1 : Float32)) rfl saturated.finite
  rw [exact_single_one] at sum
  have sumNear := sum.abs_sub_le_two_pow (n := 1) (by decide)
    (abs_le.mpr ⟨by linarith [saturated.nonneg], by linarith [saturated.le_one]⟩)
  have more : 1 ≤ exact (1 + saturation) :=
    sum.ge isValue_single_one (by linarith [saturated.nonneg])
  have less : exact (1 + saturation) ≤ 2 := by
    have bound := sum.le (isValue_two_pow (n := 1) (by decide)) (by linarith [saturated.le_one])
    rwa [pow_one] at bound
  have product := rounds_mul unit.finite sumNear.1
  rw [← full_eq] at product
  have double := two_mul_of_isUnit unit
  have low : exact lightness ≤ exact (fullLevel saturation lightness) :=
    product.ge (isValue_exact lightness) (le_mul_of_one_le_right unit.nonneg more)
  have high : exact (fullLevel saturation lightness) ≤ 2 * exact lightness := by
    have value := isValue_exact (2 * lightness)
    rw [double.2] at value
    exact product.le value (by nlinarith [unit.nonneg])
  have full : IsUnit (fullLevel saturation lightness) :=
    .of_bounds product.defined (unit.nonneg.trans low) (by linarith)
  have difference := rounds_faintLevel unit full
  have faintLow : exact (faintLevel saturation lightness) ≤ exact lightness :=
    difference.le (isValue_exact lightness) (by linarith)
  refine ⟨⟨difference.isUnit (by linarith) (by linarith), full, Or.inl (faintLow.trans low)⟩, ?_⟩
  have productNear := (product.abs_sub_le_two_pow (n := 0) (by decide)
    (abs_le.mpr ⟨by nlinarith [unit.nonneg], by nlinarith [unit.nonneg]⟩)).2
  have sumHigh := (abs_le.mp sumNear.2).2
  have productHigh := (abs_le.mp productNear).2
  norm_num at sumHigh productHigh ⊢
  nlinarith [unit.nonneg, saturated.nonneg]

theorem exists_steps_of_light (unit : IsUnit lightness) (light : 1 / 2 ≤ exact lightness) :
    Exists fun count : ℤ => exact lightness = count / 2 ^ 24 ∧ 0 < count ∧ count ≤ 2 ^ 24 := by
  rcases exists_multiple_single (n := 1) (isValue_exact lightness) (by decide)
    (by rwa [pow_one]) with ⟨count, equal⟩
  have high := unit.le_one
  rw [equal] at light high
  refine ⟨count, equal, ?_, ?_⟩
  · have positive : (0 : ℚ) < count := by
      by_contra nonpos
      linarith [div_nonpos_of_nonpos_of_nonneg (not_lt.mp nonpos) (by positivity : (0 : ℚ) ≤ 2 ^ 24)]
    exact_mod_cast positive
  · rw [div_le_one (by positivity)] at high
    exact_mod_cast high

/-- A number between zero and one in steps of a power of two. -/
theorem exists_steps_of_lt_one (positive : 0 < exact saturation) (below : exact saturation < 1) :
    Exists fun count : ℕ => Exists fun n : ℕ =>
      exact saturation = count / 2 ^ n ∧ count < 2 ^ 24 ∧ 24 ≤ n ∧ n ≤ 149 := by
  rcases (isValue_exact saturation).exists_steps positive with ⟨count, own, -, few⟩
  have log : Int.log 2 (exact saturation) < 0 :=
    (Int.lt_zpow_iff_log_lt (by decide) positive).mp (by rwa [zpow_zero])
  have bits : (Binary.format Float32).mantissaBits = 24 := rfl
  have least : (Binary.format Float32).minExponent = -149 := rfl
  have spaced : -149 ≤ Exact.spacing (Binary.format Float32) (exact saturation) ∧
      Exact.spacing (Binary.format Float32) (exact saturation) ≤ -24 := by
    unfold Exact.spacing
    omega
  rcases Int.exists_eq_neg_ofNat (spaced.2.trans (by decide)) with ⟨n, fine⟩
  rw [fine, zpow_neg, zpow_natCast, ← div_eq_mul_inv] at own
  exact ⟨count, n, own, few, by omega, by omega⟩

/-- What two numbers up to one, the first of them from the half on, come to
above one is a number. -/
theorem isValue_excess (saturated : IsUnit saturation) (unit : IsUnit lightness)
    (light : 1 / 2 ≤ exact lightness) (beyond : 1 < exact saturation + exact lightness) :
    IsValue Float32 (exact saturation + exact lightness - 1) := by
  rcases saturated.le_one.eq_or_lt with whole | below
  · rw [whole, add_sub_cancel_left]
    exact isValue_exact lightness
  rcases exists_steps_of_lt_one (by linarith [unit.le_one]) below with
    ⟨steps, n, own, few, coarse, fine⟩
  rcases exists_steps_of_light unit light with ⟨count, equal, -, -⟩
  have split : (2 : ℚ) ^ n = 2 ^ 24 * 2 ^ (n - 24) := by
    rw [← pow_add]
    congr 1
    omega
  set rest : ℤ := steps + (count - 2 ^ 24) * 2 ^ (n - 24) with rest_eq
  have excess : exact saturation + exact lightness - 1 = rest / 2 ^ n := by
    rw [own, equal, split, rest_eq]
    push_cast
    field_simp
    ring
  have power : (0 : ℚ) < 2 ^ n := by positivity
  have low : (0 : ℚ) < rest := by
    refine (div_pos_iff_of_pos_right power).mp ?_
    linarith
  have high : (rest : ℚ) ≤ steps := by
    refine (div_le_div_iff_of_pos_right power).mp ?_
    linarith [unit.le_one]
  have lowest : 0 < rest := by exact_mod_cast low
  have highest : rest ≤ steps := by exact_mod_cast high
  rw [excess]
  exact isValue_div_two_pow (abs_lt.mpr ⟨by omega, by omega⟩) fine

/-- What is left of the sum without the product.  The product is at least what
the sum exceeds one by, because that is a number; so one is not exceeded but by
the rounding of the sum. -/
theorem sum_sub_product_le (saturated : IsUnit saturation) (unit : IsUnit lightness)
    (light : 1 / 2 ≤ exact lightness) :
    exact (lightness + saturation) - exact (lightness * saturation) ≤ 1 + 1 / 2 ^ 24 := by
  have sum := rounds_add unit.finite saturated.finite
  have product := rounds_mul unit.finite saturated.finite
  rcases le_or_gt (exact saturation + exact lightness) 1 with inside | beyond
  · have within := sum.le isValue_single_one (by linarith)
    linarith [(unit.mul saturated).nonneg]
  · have excess : exact saturation + exact lightness - 1 ≤ exact (lightness * saturation) :=
      product.ge (isValue_excess saturated unit light beyond)
        (by nlinarith [saturated.le_one, unit.le_one])
    have near := (sum.abs_sub_le_two_pow (n := 1) (by decide)
      (abs_le.mpr ⟨by linarith [saturated.nonneg, unit.nonneg],
        by linarith [saturated.le_one, unit.le_one]⟩)).2
    have high := (abs_le.mp near).2
    norm_num at high ⊢
    linarith

/-- From the half on the lightness and the saturation are added and their
product is taken away.  What rounding leaves above one, half a step, is rounded
away again. -/
theorem fullLevel_of_light (saturated : IsUnit saturation) (unit : IsUnit lightness)
    (light : 1 / 2 ≤ exact lightness) : IsUnit (fullLevel saturation lightness) ∧
      exact lightness - 1 / 2 ^ 24 ≤ exact (fullLevel saturation lightness) ∧
      exact (fullLevel saturation lightness) ≤
        1 - (1 - exact saturation) * (1 - exact lightness) + 1 / 2 ^ 22 := by
  have notBelow : ¬lightness < 0.5 := by
    rw [lt_iff, exact_single_half]
    exact fun below => light.not_gt below.2.2
  have full_eq : fullLevel saturation lightness =
      lightness + saturation - lightness * saturation := if_neg notBelow
  have sum := rounds_add unit.finite saturated.finite
  have sumNear := sum.abs_sub_le_two_pow (n := 1) (by decide)
    (abs_le.mpr ⟨by linarith [saturated.nonneg], by linarith [saturated.le_one, unit.le_one]⟩)
  have sumBounds := abs_le.mp sumNear.2
  have product := rounds_mul unit.finite saturated.finite
  have productUnit := unit.mul saturated
  have productNear := (product.abs_sub_le_two_pow (n := 0) (by decide)
    (abs_le.mpr ⟨by linarith [mul_nonneg unit.nonneg saturated.nonneg],
      by rw [pow_zero]; exact mul_le_one₀ unit.le_one saturated.nonneg saturated.le_one⟩)).2
  have productBounds := abs_le.mp productNear
  have belowSaturation : exact (lightness * saturation) ≤ exact saturation :=
    product.le (isValue_exact saturation) (mul_le_of_le_one_left saturated.nonneg unit.le_one)
  have belowLightness : exact (lightness * saturation) ≤ exact lightness :=
    product.le (isValue_exact lightness) (mul_le_of_le_one_right unit.nonneg saturated.le_one)
  have difference := rounds_sub sumNear.1 productUnit.finite
  rw [← full_eq] at difference
  have nonneg : 0 ≤ exact (lightness + saturation) - exact (lightness * saturation) := by
    have above := sum.ge (isValue_exact lightness) (by linarith [saturated.nonneg])
    linarith
  have near := sum_sub_product_le saturated unit light
  refine ⟨difference.isUnit_of_near nonneg near,
    difference.ge ?_ (by norm_num at sumBounds ⊢; linarith), ?_⟩
  · rcases exists_steps_of_light unit light with ⟨count, equal, some, few⟩
    have step : exact lightness - 1 / 2 ^ 24 = ((count - 1 : ℤ) : ℚ) / 2 ^ 24 := by
      rw [equal, Int.cast_sub, Int.cast_one, sub_div]
    rw [step]
    exact isValue_div_two_pow (abs_lt.mpr ⟨by omega, by omega⟩) (by decide)
  · have differenceNear := (difference.abs_sub_le_two_pow (n := 1) (by decide)
      (abs_le.mpr ⟨by linarith, by norm_num at near ⊢; linarith⟩)).2
    have differenceHigh := (abs_le.mp differenceNear).2
    norm_num at differenceHigh sumBounds productBounds ⊢
    linarith

theorem levelsOf_of_light (saturated : IsUnit saturation) (unit : IsUnit lightness)
    (light : 1 / 2 ≤ exact lightness) : LevelsOf saturation lightness := by
  rcases fullLevel_of_light saturated unit light with ⟨full, low, near⟩
  have rest := rounds_faintLevel unit full
  have faint : IsUnit (faintLevel saturation lightness) :=
    rest.isUnit_of_near (by linarith [full.le_one]) (by norm_num at low ⊢; linarith [unit.le_one])
  have restNear := (rest.abs_sub_le_two_pow (n := 1) (by decide)
    (abs_le.mpr ⟨by linarith [full.le_one], by linarith [unit.le_one, full.nonneg]⟩)).2
  have restHigh := (abs_le.mp restNear).2
  refine ⟨⟨faint, full, Or.inr ⟨?_, ?_⟩⟩, near⟩
  · norm_num at restHigh low ⊢
    linarith
  · norm_num at low ⊢
    linarith

theorem levelsOf (saturated : IsUnit saturation) (unit : IsUnit lightness) :
    LevelsOf saturation lightness :=
  (lt_or_ge (exact lightness) (1 / 2)).elim (levelsOf_of_dark saturated unit)
    (levelsOf_of_light saturated unit)

/-! ## Parts of the difference -/

/-- A number with the sign of another one, and not larger but by a slack. -/
structure IsPart (part : Float32) (whole slack : ℚ) : Prop where
  finite : IsFinite part
  nonneg : 0 ≤ whole -> 0 ≤ exact part
  nonpos : whole ≤ 0 -> exact part ≤ 0
  small : |exact part| ≤ |whole| + slack

variable {difference turn : Float32}

section Products

variable {first second : Float32} {whole factor otherFactor : ℚ}

theorem isPart_of_small {slack : ℚ} (inner : Rounds first (whole * factor))
    (outer : Rounds second (exact first * otherFactor)) (nonneg : 0 ≤ factor)
    (otherNonneg : 0 ≤ otherFactor) (size : |whole| ≤ 1) (slight : slack ≤ 1)
    (small : |exact second| ≤ |whole| + slack) : IsPart second whole slack where
  finite := by
    refine outer.isFinite (small.trans_lt ?_)
    rw [limit_single]
    linarith [show (2 : ℚ) < 2 ^ 128 by norm_num]
  nonneg above :=
    outer.ge .zero (mul_nonneg (inner.ge .zero (mul_nonneg above nonneg)) otherNonneg)
  nonpos below := outer.le .zero (mul_nonpos_of_nonpos_of_nonneg
    (inner.le .zero (mul_nonpos_of_nonpos_of_nonneg below nonneg)) otherNonneg)
  small := small

/-- Two factors that come to less than one, by as much as rounding can add
between them, make a part.  The number may be too small for the rounding to be
measured by it; then so is the part. -/
theorem isPart_of_products {bound : ℚ} (value : IsValue Float32 whole) (size : |whole| ≤ 1)
    (finite : IsFinite first) (inner : Rounds first (whole * factor))
    (outer : Rounds second (exact first * otherFactor)) (nonneg : 0 ≤ factor)
    (bounded : factor ≤ bound) (least : 1 / 4 ≤ bound) (most : bound ≤ 8)
    (otherNonneg : 0 ≤ otherFactor) (otherMost : otherFactor ≤ 8)
    (short : (factor + bound / 2 ^ 24) * otherFactor ≤ 1) : IsPart second whole (1 / 2 ^ 90) := by
  have some := abs_nonneg whole
  have innerSize : |whole * factor| ≤ |whole| * bound := by
    rw [abs_mul, abs_of_nonneg nonneg]
    gcongr
  have outerSize : |exact first * otherFactor| = |exact first| * otherFactor := by
    rw [abs_mul, abs_of_nonneg otherNonneg]
  refine isPart_of_small inner outer nonneg otherNonneg size (by norm_num) ?_
  rcases le_total |whole| (1 / 2 ^ 98) with tiny | large
  · have power {n : ℕ} (fine : n ≤ 149) : IsValue Float32 (1 / 2 ^ n) := by
      simpa using isValue_div_two_pow (by decide : |(1 : ℤ)| < 2 ^ 24) fine
    have innerTiny : |exact first| ≤ 1 / 2 ^ 95 := inner.within (power (by decide)) (by
      calc |whole * factor| ≤ |whole| * bound := innerSize
        _ ≤ 1 / 2 ^ 98 * 8 := mul_le_mul tiny most (by linarith) (by positivity)
        _ = 1 / 2 ^ 95 := by norm_num)
    have outerTiny : |exact second| ≤ 1 / 2 ^ 92 := outer.within (power (by decide)) (by
      calc |exact first * otherFactor| = |exact first| * otherFactor := outerSize
        _ ≤ 1 / 2 ^ 95 * 8 := mul_le_mul innerTiny otherMost otherNonneg (by positivity)
        _ = 1 / 2 ^ 92 := by norm_num)
    linarith [show (1 / 2 ^ 92 : ℚ) ≤ 1 / 2 ^ 90 by norm_num]
  · have error := inner.abs_sub_le_of_coarse (n := 100) finite (by decide)
      (by
        calc (1 / 2 ^ 100 : ℚ) = 1 / 2 ^ 98 * (1 / 4) := by norm_num
          _ ≤ |whole| * bound := mul_le_mul large least (by norm_num) some) innerSize
    have innerBound : |exact first| ≤ |whole| * (factor + bound / 2 ^ 24) := by
      have step := abs_sub_abs_le_abs_sub (exact first) (whole * factor)
      rw [abs_mul, abs_of_nonneg nonneg] at step
      linarith
    have outerBound : |exact second| ≤ |whole| := outer.within value.abs (by
      calc |exact first * otherFactor| = |exact first| * otherFactor := outerSize
        _ ≤ |whole| * (factor + bound / 2 ^ 24) * otherFactor := by gcongr
        _ = |whole| * ((factor + bound / 2 ^ 24) * otherFactor) := by ring
        _ ≤ |whole| := mul_le_of_le_one_right some short)
    exact outerBound.trans (le_add_of_nonneg_right (by positivity))

end Products

variable {difference part : Float32}

theorem abs_mul_le_of_size {x y : ℚ} {n : ℕ} (size : |x| ≤ 1) (nonneg : 0 ≤ y) (most : y ≤ 2 ^ n) :
    |x * y| ≤ 2 ^ n := by
  rw [abs_mul, abs_of_nonneg nonneg]
  exact (mul_le_of_le_one_left nonneg size).trans most

/-- Six times a turn before the sixth. -/
theorem isPart_rising (finite : IsFinite difference) (size : |exact difference| ≤ 1)
    (partFinite : IsFinite part) (nonneg : 0 ≤ exact part) (early : exact part ≤ 11184810 / 2 ^ 26) :
    IsPart (difference * 6 * part) (exact difference) (1 / 2 ^ 90) := by
  have inner := rounds_mul (y := (6 : Float32)) finite rfl
  rw [exact_single_six] at inner
  have near := inner.abs_sub_le_two_pow (n := 3) (by decide)
    (abs_mul_le_of_size size (by norm_num) (by norm_num))
  refine isPart_of_products (isValue_exact difference) size near.1 inner
    (rounds_mul near.1 partFinite) (by norm_num) le_rfl (by norm_num) (by norm_num) nonneg
    (by linarith) ?_
  norm_num
  linarith

/-- The sixfold of a rest before the half turn. -/
theorem isPart_falling (finite : IsFinite difference) (size : |exact difference| ≤ 1)
    (partFinite : IsFinite part) (nonneg : 0 ≤ exact part) (late : exact part ≤ 2796202 / 2 ^ 24) :
    IsPart (difference * part * 6) (exact difference) (1 / 2 ^ 90) := by
  have inner := rounds_mul finite partFinite
  have near := inner.abs_sub_le_two_pow (n := 0) (by decide)
    (abs_mul_le_of_size size nonneg (by linarith))
  have outer := rounds_mul (y := (6 : Float32)) near.1 rfl
  rw [exact_single_six] at outer
  refine isPart_of_products (isValue_exact difference) size near.1 inner outer nonneg
    (by linarith : exact part ≤ 1 / 4) le_rfl (by norm_num) (by norm_num) (by norm_num) ?_
  norm_num
  linarith

/-- On the half turn the sixfold of the rest is more than the whole. -/
theorem isPart_half (finite : IsFinite difference) (size : |exact difference| ≤ 1)
    (partFinite : IsFinite part) (half : exact part = 2796203 / 2 ^ 24) :
    IsPart (difference * part * 6) (exact difference) (3 / 2 ^ 23) := by
  have inner := rounds_mul finite partFinite
  rw [half] at inner
  have near := inner.abs_sub_le_two_pow (n := 0) (by decide)
    (abs_mul_le_of_size size (by norm_num) (by norm_num))
  have outer := rounds_mul (y := (6 : Float32)) near.1 rfl
  rw [exact_single_six] at outer
  have innerBound : |exact (difference * part)| ≤
      |exact difference| * (2796203 / 2 ^ 24) + 1 / 2 ^ 25 := by
    have step := abs_sub_abs_le_abs_sub (exact (difference * part))
      (exact difference * (2796203 / 2 ^ 24))
    rw [abs_mul, abs_of_nonneg (by norm_num : (0 : ℚ) ≤ 2796203 / 2 ^ 24)] at step
    linarith [near.2, show (2 ^ 0 / 2 ^ 25 : ℚ) = 1 / 2 ^ 25 by norm_num]
  have outerSize : |exact (difference * part) * 6| = |exact (difference * part)| * 6 := by
    rw [abs_mul, abs_of_nonneg (by norm_num : (0 : ℚ) ≤ 6)]
  have outerNear := (outer.abs_sub_le_two_pow (n := 1) (by decide)
    (by rw [outerSize]; norm_num at innerBound ⊢; linarith)).2
  refine isPart_of_small inner outer (by norm_num) (by norm_num) size (by norm_num) ?_
  have step := abs_sub_abs_le_abs_sub (exact (difference * part * 6)) (exact (difference * part) * 6)
  rw [outerSize] at step
  norm_num at innerBound outerNear ⊢
  linarith

end Rgb

end Starfield
