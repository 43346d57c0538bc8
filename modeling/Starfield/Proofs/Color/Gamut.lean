import Starfield.Proofs.Color.Hue
import Starfield.Proofs.Number.Equality

namespace Starfield

/-!
# Colors of a hue

The color of a hue can be shown unless one of its channels stands on the half
turn, where it falls from the full level.  What the channel is there depends on
the saturation and the lightness alone.  It is the crest of the color, and it
exceeds one by at most four steps of the numbers above one, and only if either
of the two is next to one.
-/

namespace Rgb

variable {saturation lightness faint full part : Float32}

/-! ## Channels -/

/-- The difference of two levels, and what a part of it comes to with the faint
one. -/
theorem AreLevels.difference_spec (levels : AreLevels faint full) :
    IsFinite (full - faint) ∧ |exact (full - faint)| ≤ 1 ∧
      |exact (full - faint) - (exact full - exact faint)| ≤ 1 / 2 ^ 25 := by
  have within : |exact full - exact faint| ≤ 1 := abs_le.mpr
    ⟨by linarith [levels.full_unit.nonneg, levels.faint_unit.le_one],
      by linarith [levels.faint_unit.nonneg, levels.full_unit.le_one]⟩
  have difference := rounds_sub levels.full_unit.finite levels.faint_unit.finite
  have near := difference.abs_sub_le_two_pow (n := 0) (by decide) (by rwa [pow_zero])
  rw [pow_zero] at near
  exact ⟨near.1, difference.within isValue_single_one within, near.2⟩

theorem AreLevels.add_part (levels : AreLevels faint full) {slack : ℚ}
    (taken : IsPart part (exact (full - faint)) slack) (slight : slack ≤ 1 / 8) :
    Rounds (faint + part) (exact faint + exact part) ∧ 0 ≤ exact faint + exact part ∧
      exact faint + exact part ≤ max (exact faint) (exact full + 1 / 2 ^ 25 + slack) := by
  have near := abs_le.mp levels.difference_spec.2.2
  have small := abs_le.mp taken.small
  refine ⟨rounds_add levels.faint_unit.finite taken.finite, ?_, ?_⟩
  · rcases le_or_gt (exact faint) (exact full) with ordered | crossed
    · have rising : 0 ≤ exact (full - faint) :=
        (rounds_sub levels.full_unit.finite levels.faint_unit.finite).ge .zero (by linarith)
      linarith [taken.nonneg rising, levels.faint_unit.nonneg]
    · -- Levels that are out of order are far above zero.
      rcases levels.order with ordered | ⟨close, high⟩
      · exact absurd crossed ordered.not_gt
      · have tiny : |exact (full - faint)| ≤ 1 / 2 ^ 21 := by
          norm_num at near close ⊢
          exact abs_le.mpr ⟨by linarith, by linarith⟩
        norm_num at tiny
        linarith
  · rcases le_total 0 (exact (full - faint)) with rising | falling
    · rw [abs_of_nonneg rising] at small
      exact le_max_of_le_right (by linarith)
    · exact le_max_of_le_left (by linarith [taken.nonpos falling])

theorem AreLevels.isUnit_add_part (levels : AreLevels faint full)
    (taken : IsPart part (exact (full - faint)) (1 / 2 ^ 90)) : IsUnit (faint + part) := by
  rcases levels.add_part taken (by norm_num) with ⟨sum, nonneg, most⟩
  refine sum.isUnit_of_near nonneg (most.trans (max_le ?_ ?_))
  · linarith [levels.faint_unit.le_one, show (0 : ℚ) ≤ 1 / 2 ^ 24 by positivity]
  · linarith [levels.full_unit.le_one,
      show (1 / 2 ^ 25 + 1 / 2 ^ 90 : ℚ) ≤ 1 / 2 ^ 24 by norm_num]

/-- A number that rounding may have led out of the interval, by a little. -/
structure IsNearUnit (x : Float32) : Prop where
  finite : IsFinite x
  nonneg : 0 ≤ exact x
  most : exact x ≤ 1 + 1 / 2 ^ 21

theorem isNearUnit {x : Float32} (unit : IsUnit x) : IsNearUnit x :=
  ⟨unit.finite, unit.nonneg, unit.le_one.trans (by norm_num)⟩

theorem IsNearUnit.isUnit_iff {x : Float32} (near : IsNearUnit x) : IsUnit x ↔ x ≤ 1 := by
  rw [le_iff, exact_single_one]
  exact ⟨fun unit => ⟨unit.finite.isDefined, rfl, unit.le_one⟩,
    fun below => ⟨near.finite, near.nonneg, below.2.2⟩⟩

/-- The channel on the half turn. -/
def halfChannel (faint full : Float32) : Float32 :=
  faint + (full - faint) * (2 / 3 - 0.5) * 6

theorem AreLevels.halfChannel_spec (levels : AreLevels faint full) :
    IsNearUnit (halfChannel faint full) ∧
      (exact full ≤ exact faint ∨ exact full ≤ 1 - 1 / 2 ^ 21 -> IsUnit (halfChannel faint full)) := by
  have restFinite : IsFinite (2 / 3 - 0.5 : Float32) := rfl
  have rest : exact (2 / 3 - 0.5 : Float32) = 2796203 / 2 ^ 24 := by
    rw [exact_of_unpack (u := .finite .positive 11184812 (-26) (by decide)) rfl]
    norm_num [Exact.value, Exact.signed]
  rcases levels.difference_spec with ⟨finite, size, -⟩
  have taken := isPart_half finite size restFinite rest
  rcases levels.add_part taken (by norm_num) with ⟨sum, nonneg, most⟩
  change Rounds (halfChannel faint full) _ at sum
  have faintHigh := levels.faint_unit.le_one
  have fullHigh := levels.full_unit.le_one
  have top : IsValue Float32 (1 + 1 / 2 ^ 21) := by
    have value := isValue_div_two_pow (n := 21) (by decide : |(2097153 : ℤ)| < 2 ^ 24) (by decide)
    norm_num at value ⊢
    exact value
  have high : exact (halfChannel faint full) ≤ 1 + 1 / 2 ^ 21 :=
    sum.le top (most.trans (max_le (by norm_num; linarith) (by norm_num; linarith)))
  have low : 0 ≤ exact (halfChannel faint full) := sum.ge .zero nonneg
  refine ⟨⟨sum.isFinite ?_, low, high⟩, ?_⟩
  · rw [abs_of_nonneg low, limit_single]
    exact high.trans_lt (by norm_num)
  · rintro (level | spared)
    · have falling : exact (full - faint) ≤ 0 :=
        (rounds_sub levels.full_unit.finite levels.faint_unit.finite).le .zero (by linarith)
      exact sum.isUnit nonneg (by linarith [taken.nonpos falling])
    · exact sum.isUnit nonneg (most.trans (max_le faintHigh (by norm_num at spared ⊢; linarith)))

theorem isUnit_modulo_one {turn : Float32} (defined : IsDefined (Single.modulo turn 1)) :
    IsUnit (Single.modulo turn 1) := by
  have finite : IsFinite turn := by
    by_contra infinite
    exact Single.modulo_of_not_finite infinite 1 defined
  have rounds := Single.rounds_modulo (y := (1 : Float32)) finite rfl
    (exact_single_one ▸ zero_lt_one)
  rw [exact_single_one, mul_one] at rounds
  exact rounds.isUnit (Int.fract_nonneg _) (Int.fract_lt_one _).le

/-- The last number before a sixth. -/
theorem exact_le_of_lt_sixth {t : Float32} (early : t < 1 / 6) : exact t ≤ 11184810 / 2 ^ 26 := by
  have value := isValue_exact (1 / 6 : Float32)
  have below := ((lt_iff _ _).mp early).2.2
  rw [exact_sixth] at value below
  rcases lt_or_ge (exact t) (1 / 2 ^ 3) with small | large
  · norm_num at small ⊢
    linarith
  · have step := add_step_le_single (isValue_exact t) value (by decide) large below
    norm_num at step ⊢
    linarith

/-- The first number behind the half. -/
theorem le_exact_of_half_lt {t : Float32} (late : 1 / 2 < exact t) :
    1 / 2 + 1 / 2 ^ 24 ≤ exact t := by
  have value := isValue_exact (0.5 : Float32)
  rw [exact_single_half] at value
  exact add_step_le_single (n := 1) value (isValue_exact t) (by decide) (by rw [pow_one]) late

/-- Behind the half turn the rest up to two thirds is less than a sixth. -/
theorem rest_spec {t : Float32} (unit : IsUnit t) (late : 1 / 2 < exact t) (early : t < 2 / 3) :
    IsFinite (2 / 3 - t) ∧ 0 ≤ exact (2 / 3 - t) ∧ exact (2 / 3 - t) ≤ 2796202 / 2 ^ 24 := by
  have below := ((lt_iff _ _).mp early).2.2
  have above := le_exact_of_half_lt late
  have finite : IsFinite (2 / 3 : Float32) := rfl
  have rounds := rounds_sub finite unit.finite
  rw [exact_twoThirds] at rounds below
  have value : IsValue Float32 (2796202 / 2 ^ 24) := by
    simpa using isValue_div_two_pow (n := 24) (by decide : |(2796202 : ℤ)| < 2 ^ 24) (by decide)
  refine ⟨(rounds.isUnit (by linarith) (by norm_num; linarith)).finite,
    rounds.ge .zero (by linarith), rounds.le value (by norm_num at above ⊢; linarith)⟩

/-- A channel is a number between zero and one, but on the half turn. -/
theorem AreLevels.hueChannel_spec (levels : AreLevels faint full) (turn : Float32) :
    Single.modulo turn 1 = 0.5 ∧ hueChannel faint full turn = halfChannel faint full ∨
      Single.modulo turn 1 ≠ 0.5 ∧ IsUnit (hueChannel faint full turn) := by
  by_cases half : Single.modulo turn 1 = 0.5
  · refine Or.inl ⟨half, ?_⟩
    unfold hueChannel
    rw [half]
    rfl
  refine Or.inr ⟨half, ?_⟩
  rcases levels.difference_spec with ⟨finite, size, -⟩
  unfold hueChannel
  generalize turned : Single.modulo turn 1 = t at half ⊢
  have inUnit (defined : IsDefined t) : IsUnit t := turned ▸ isUnit_modulo_one (turned ▸ defined)
  dsimp only
  split_ifs with rising flat falling
  · have unit := inUnit ((lt_iff _ _).mp rising).1
    exact levels.isUnit_add_part
      (isPart_rising finite size unit.finite unit.nonneg (exact_le_of_lt_sixth rising))
  · exact levels.full_unit
  · have unit := inUnit ((lt_iff _ _).mp falling).1
    have late : 1 / 2 < exact t := by
      have reached := (not_lt_iff_le (y := (0.5 : Float32)) unit.finite.isDefined rfl).mp flat
      rw [le_iff, exact_single_half] at reached
      refine lt_of_le_of_ne reached.2.2 fun same => half ?_
      exact eq_of_exact_eq unit.finite rfl (by rw [exact_single_half]; norm_num)
        (same.symm.trans exact_single_half.symm)
    rcases rest_spec unit late falling with ⟨restFinite, nonneg, few⟩
    exact levels.isUnit_add_part (isPart_falling finite size restFinite nonneg few)
  · exact levels.faint_unit

theorem AreLevels.isNearUnit_hueChannel (levels : AreLevels faint full) (turn : Float32) :
    IsNearUnit (hueChannel faint full turn) := by
  rcases levels.hueChannel_spec turn with ⟨-, same⟩ | ⟨-, unit⟩
  · rw [same]
    exact levels.halfChannel_spec.1
  · exact isNearUnit unit

theorem AreLevels.isChannel_hueChannel_iff (levels : AreLevels faint full) (turn : Float32) :
    isChannel (hueChannel faint full turn) = true ↔
      (Single.modulo turn 1 = 0.5 -> halfChannel faint full ≤ 1) := by
  rw [isChannel, isUnit_iff]
  rcases levels.hueChannel_spec turn with ⟨half, same⟩ | ⟨apart, unit⟩
  · rw [same, levels.halfChannel_spec.1.isUnit_iff]
    exact ⟨fun below _ => below, fun below => below half⟩
  · exact iff_of_true unit fun half => absurd half apart

/-- Without saturation both levels are the lightness, and so is what is between
them. -/
theorem levels_of_gray (saturated : IsUnit saturation) (unit : IsUnit lightness)
    (gray : exact saturation = 0) : exact (fullLevel saturation lightness) = exact lightness ∧
      exact (faintLevel saturation lightness) = exact lightness := by
  have value := isValue_exact lightness
  have levels := (levelsOf saturated unit).levels
  have full : exact (fullLevel saturation lightness) = exact lightness := by
    unfold fullLevel
    split_ifs
    · have sum := rounds_add (x := (1 : Float32)) rfl saturated.finite
      rw [gray, add_zero, exact_single_one] at sum
      rcases sum.spec_of_isValue isValue_single_one (by rw [limit_single]; norm_num) with
        ⟨finite, whole⟩
      have product := rounds_mul unit.finite finite
      rw [whole, mul_one] at product
      exact product.exact_eq_of_isValue value
    · have sum := rounds_add unit.finite saturated.finite
      have product := rounds_mul unit.finite saturated.finite
      rw [gray, add_zero] at sum
      rw [gray, mul_zero] at product
      have none := product.spec_of_zero
      have whole := sum.spec_of_isValue value unit.finite.abs_exact_lt
      have difference := rounds_sub whole.1 none.1
      rw [whole.2, none.2, sub_zero] at difference
      exact difference.exact_eq_of_isValue value
  have difference := rounds_faintLevel unit levels.full_unit
  rw [full, two_mul, add_sub_cancel_right] at difference
  exact ⟨full, difference.exact_eq_of_isValue value⟩

/-! ## Colors -/

/-- The places of the three channels on the circle, in turns. -/
def places (hue : Float32) : List Float32 :=
  let turn := Single.modulo hue 360 / 360
  [turn + 1 / 3, turn, turn - 1 / 3]

/-- The same places, within one turn. -/
def turns (hue : Float32) : List Float32 :=
  (places hue).map (Single.modulo · 1)

/-- What a channel comes to on the half turn. -/
def crest (saturation lightness : Float32) : Float32 :=
  halfChannel (faintLevel saturation lightness) (fullLevel saturation lightness)

/-- Without saturation the crest does not exceed one, and neither does it where
saturation and lightness stay away from one. -/
theorem crest_le_one (saturated : IsUnit saturation) (unit : IsUnit lightness)
    (spared : exact saturation = 0 ∨
      1 / 2 ^ 20 ≤ (1 - exact saturation) * (1 - exact lightness)) :
    crest saturation lightness ≤ 1 := by
  have known := levelsOf saturated unit
  have spec := known.levels.halfChannel_spec
  refine spec.1.isUnit_iff.mp (spec.2 (spared.imp (fun gray => ?_) fun room => ?_))
  · rcases levels_of_gray saturated unit gray with ⟨full, faint⟩
    exact (full.trans faint.symm).le
  · have near := known.near
    norm_num at near room ⊢
    linarith

def channels (color : Rgb) : List Float32 :=
  [color.red, color.green, color.blue]

theorem isNormalized_iff_channels (color : Rgb) : color.isNormalized = true ↔
    forall channel, channel ∈ color.channels -> isChannel channel = true := by
  rw [isNormalized, Bool.and_eq_true, Bool.and_eq_true, and_assoc]
  simp only [channels, List.forall_mem_cons, List.not_mem_nil, false_imp_iff, implies_true, and_true]

/-- The color of a hue is gray, or its channels lie between the two levels. -/
theorem channels_ofHsl (hue saturation lightness : Float32) :
    let s := Single.clampUnit saturation
    let l := Single.clampUnit lightness
    (ofHsl hue saturation lightness).channels =
      if s == 0 then [l, l, l]
      else (places hue).map (hueChannel (faintLevel s l) (fullLevel s l)) :=
  apply_ite channels _ _ _

/-- Which colors of a hue can be shown, and how far the others are from it. -/
structure HslSpec (hue saturation lightness : Float32) : Prop where
  normalized_iff : (ofHsl hue saturation lightness).isNormalized = true ↔
    ((0.5 : Float32) ∈ turns hue ->
      crest (Single.clampUnit saturation) (Single.clampUnit lightness) ≤ 1)
  near : forall channel, channel ∈ (ofHsl hue saturation lightness).channels -> IsNearUnit channel
  /-- Every hue can be shown where saturation and lightness stay away from one. -/
  spared : 1 / 2 ^ 20 ≤ (1 - exact (Single.clampUnit saturation)) *
      (1 - exact (Single.clampUnit lightness)) -> (ofHsl hue saturation lightness).isNormalized = true

theorem ofHsl_spec (hue : Float32) (saturated : IsDefined saturation) (light : IsDefined lightness) :
    HslSpec hue saturation lightness := by
  have saturationUnit := (clampUnit_spec saturated).1
  have unit := (clampUnit_spec light).1
  have levels := (levelsOf saturationUnit unit).levels
  have listed := channels_ofHsl hue saturation lightness
  dsimp only at listed
  split_ifs at listed with gray
  · have none := ((single_beq_iff _ _).mp gray).2.2
    rw [exact_single_zero] at none
    have same {channel : Float32} (member : channel ∈ (ofHsl hue saturation lightness).channels) :
        IsUnit channel := by
      rw [listed] at member
      simp only [List.mem_cons, List.not_mem_nil, or_false, or_self] at member
      exact member ▸ unit
    have normalized := (isNormalized_iff_channels _).mpr fun channel member =>
      (isUnit_iff channel).mpr (same member)
    exact {
      normalized_iff := iff_of_true normalized fun _ => crest_le_one saturationUnit unit (Or.inl none)
      near := fun channel member => isNearUnit (same member)
      spared := fun _ => normalized }
  · have decided : (ofHsl hue saturation lightness).isNormalized = true ↔
        ((0.5 : Float32) ∈ turns hue ->
          crest (Single.clampUnit saturation) (Single.clampUnit lightness) ≤ 1) := by
      rw [isNormalized_iff_channels, listed, turns, List.forall_mem_map]
      simp only [levels.isChannel_hueChannel_iff, List.mem_map]
      exact ⟨fun each ⟨place, member, half⟩ => each place member half,
        fun each place member half => each ⟨place, member, half⟩⟩
    refine ⟨decided, ?_, fun room =>
      decided.mpr fun _ => crest_le_one saturationUnit unit (Or.inr room)⟩
    rw [listed, List.forall_mem_map]
    exact fun place _ => levels.isNearUnit_hueChannel place

end Rgb

end Starfield
