import Starfield.Particle.Motion
import Starfield.Proofs.Number.Bounds
import Starfield.Proofs.Number.Remainder
import Starfield.Proofs.Settings.Accepted

namespace Starfield

/-!
# Steps and bands

The bound on the time of a step is in order for every accepted setting, so the
number of steps always exists.  Bringing a coordinate into a band works for
every finite coordinate; for any other one it gives nothing that lies in a
band.
-/

namespace Motion

/-- The coordinate lies in `[0, extent)`. -/
def InBand (x extent : Float32) : Prop :=
  0 ≤ x ∧ x < extent

theorem wrap_eq (value extent : Float32) : wrap value extent =
    if extent ≤ Single.modulo value extent then 0 else Single.modulo value extent :=
  rfl

theorem inBand_iff {x extent : Float32} (finite : IsFinite extent) :
    InBand x extent ↔ IsDefined x ∧ 0 ≤ exact x ∧ exact x < exact extent := by
  unfold InBand
  rw [le_iff, lt_iff, exact_single_zero]
  constructor
  · rintro ⟨⟨-, defined, low⟩, -, -, high⟩
    exact ⟨defined, low, high⟩
  · rintro ⟨defined, low, high⟩
    exact ⟨⟨rfl, defined, low⟩, defined, finite.isDefined, high⟩

theorem InBand.isDefined {x extent : Float32} (inside : InBand x extent) : IsDefined x :=
  ((le_iff _ _).mp inside.1).2.1

theorem InBand.isFinite {x extent : Float32} (inside : InBand x extent) (finite : IsFinite extent) :
    IsFinite x := by
  rw [inBand_iff finite] at inside
  rw [isFinite_iff, abs_of_nonneg inside.2.1]
  exact ⟨inside.1, inside.2.2.trans ((le_abs_self _).trans_lt finite.abs_exact_lt)⟩

/-- Rounding can bring a coordinate onto the far edge, never beyond it, and the
far edge is replaced. -/
theorem inBand_wrap {value extent : Float32} (finite : IsFinite value) (bound : IsFinite extent)
    (positive : 0 < exact extent) : InBand (wrap value extent) extent := by
  have rest := Single.rounds_modulo finite bound positive
  have low : 0 ≤ exact (Single.modulo value extent) :=
    rest.ge Exact.Representable.zero (mul_nonneg (Int.fract_nonneg _) positive.le)
  rw [wrap_eq, inBand_iff bound]
  split_ifs with full
  · exact ⟨rfl, exact_single_zero.ge, exact_single_zero ▸ positive⟩
  · refine ⟨rest.defined, low, ?_⟩
    rwa [← not_lt_iff_le rest.defined bound.isDefined, not_not, lt_iff,
      and_iff_right rest.defined, and_iff_right bound.isDefined] at full

/-- A coordinate that is not negative leaves the exact remainder. -/
theorem wrap_of_nonneg {value extent : Float32} (finite : IsFinite value) (bound : IsFinite extent)
    (positive : 0 < exact extent) (nonneg : 0 ≤ exact value) : IsFinite (wrap value extent) ∧
      exact (wrap value extent) = Int.fract (exact value / exact extent) * exact extent := by
  rcases Single.modulo_of_nonneg finite bound positive nonneg with ⟨number, rest⟩
  have short : ¬extent ≤ Single.modulo value extent := by
    rw [le_iff_exact bound.isDefined number.isDefined, rest]
    exact (mul_lt_of_lt_one_left positive (Int.fract_lt_one _)).not_ge
  rw [wrap_eq, if_neg short]
  exact ⟨number, rest⟩

/-- What is not finite is not even brought to a number. -/
theorem not_isDefined_wrap {value : Float32} (infinite : ¬IsFinite value) (extent : Float32) :
    ¬IsDefined (wrap value extent) := by
  have undefined := Single.modulo_of_not_finite infinite extent
  rwa [wrap_eq, if_neg fun ordered => undefined ((le_iff _ _).mp ordered).2.1]

/-- So a coordinate is brought into the band exactly if it was finite. -/
theorem inBand_wrap_iff {value extent : Float32} (bound : IsFinite extent)
    (positive : 0 < exact extent) : InBand (wrap value extent) extent ↔ IsFinite value := by
  by_cases finite : IsFinite value
  · exact iff_of_true (inBand_wrap finite bound positive) finite
  · exact iff_of_false (fun inside => not_isDefined_wrap finite extent inside.isDefined) finite

/-! ## Steps -/

/-- The time of a step, held to its bound. -/
def heldTime (elapsed longest : Float) : ℚ :=
  if elapsed.isFinite then max 0 (min (exact longest) (exact elapsed)) else 0

/-- An accepted bound on the time of a step is in order, so the steps exist.
They are those of a time within the bound. -/
theorem frameSteps_spec {longest : Float} (bounded : IsNonNegative longest) (elapsed : Float)
    (scale : Float32) : Exists fun time : Float => IsFinite time ∧
      exact time = heldTime elapsed longest ∧
      frameSteps elapsed longest scale = .ok (narrow (time / Clock.referenceFrame) * scale) := by
  have ordered : (0 : Float) ≤ longest := by
    rw [le_iff, exact_double_zero]
    exact ⟨rfl, bounded.finite.isDefined, bounded.nonneg⟩
  unfold frameSteps clampOrdered heldTime
  rw [if_pos ordered]
  by_cases finite : elapsed.isFinite = true
  · have number : IsFinite elapsed := finite
    have clamped := clamp_spec (show IsDefined (0 : Float) from rfl) bounded.finite.isDefined number.isDefined
      (exact_double_zero.trans_le bounded.nonneg)
    rw [exact_double_zero] at clamped
    refine ⟨clamp 0 longest elapsed, ?_, ?_, ?_⟩
    · refine (isFinite_iff _).mpr ⟨clamped.1, ?_⟩
      rw [clamped.2, abs_of_nonneg (le_max_left _ _)]
      exact (max_le bounded.nonneg (min_le_left _ _)).trans_lt
        ((le_abs_self _).trans_lt bounded.finite.abs_exact_lt)
    · rw [if_pos finite]
      exact clamped.2
    · rw [if_pos (show Clock.isFinite elapsed = true from finite)]
      rfl
  · refine ⟨0, rfl, ?_, ?_⟩
    · rw [if_neg finite]
      exact exact_double_zero
    · rw [if_neg (show ¬Clock.isFinite elapsed = true from finite)]
      rfl

theorem heldTime_nonneg (elapsed longest : Float) : 0 ≤ heldTime elapsed longest := by
  unfold heldTime
  split_ifs
  · exact le_max_left _ _
  · exact le_rfl

theorem heldTime_le {longest : Float} (bounded : IsNonNegative longest) (elapsed : Float) :
    heldTime elapsed longest ≤ exact longest := by
  unfold heldTime
  split_ifs
  · exact max_le bounded.nonneg (min_le_left _ _)
  · exact bounded.nonneg

/-- Times that are longer are held to longer times. -/
theorem heldTime_mono {shorter longer : Float} (longest : Float) (finite : IsFinite longer)
    (ordered : shorter ≤ longer) : heldTime shorter longest ≤ heldTime longer longest := by
  have inside : longer.isFinite = true := finite
  unfold heldTime
  rw [if_pos inside]
  split_ifs
  · exact max_le_max le_rfl (min_le_min le_rfl ((le_iff _ _).mp ordered).2.2)
  · exact le_max_left _ _

theorem heldTime_self {longest : Float} (bounded : IsNonNegative longest) :
    heldTime longest longest = exact longest := by
  have inside : longest.isFinite = true := bounded.finite
  unfold heldTime
  rw [if_pos inside, min_self, max_eq_right bounded.nonneg]

/-- A time that is negative, nothing or no finite number is held to nothing. -/
theorem heldTime_eq_zero {elapsed : Float} (longest : Float)
    (nothing : elapsed ≤ 0 ∨ ¬IsFinite elapsed) : heldTime elapsed longest = 0 := by
  unfold heldTime
  split_ifs with inside
  · have nonpos := ((le_iff _ _).mp (nothing.resolve_right (not_not_intro inside))).2.2
    rw [exact_double_zero] at nonpos
    exact max_eq_left ((min_le_right _ _).trans nonpos)
  · rfl

theorem one_le_referenceFrame : 1 ≤ exact (Clock.referenceFrame : Float) := by
  rw [exact_of_unpack (u := .finite .positive 4691249611844267 (-48) (by decide)) rfl]
  norm_num [Exact.value, Exact.signed]

/-- The number of reference frames in a time is not larger than the time, so it
is finite before it is narrowed. -/
theorem rounds_frames {time : Float} (finite : IsFinite time) :
    Rounds (time / Clock.referenceFrame) (exact time / exact (Clock.referenceFrame : Float)) ∧
      Rounds (narrow (time / Clock.referenceFrame)) (exact (time / Clock.referenceFrame)) := by
  have frame := one_le_referenceFrame
  have quotient := rounds_div finite (y := (Clock.referenceFrame : Float)) rfl (by linarith)
  have small : |exact time / exact (Clock.referenceFrame : Float)| ≤ |exact time| := by
    rw [abs_div]
    exact div_le_self (abs_nonneg _) (frame.trans (le_abs_self _))
  have inside := quotient.within (isValue_exact time).abs small
  exact ⟨quotient, rounds_narrow (quotient.isFinite (inside.trans_lt finite.abs_exact_lt))⟩

/-- A time of up to `2 ^ n` and a factor of up to `2 ^ m` give no more than
`2 ^ (n + m)` steps, as long as that is a number of single precision. -/
theorem frameSteps_within {n m : ℕ} (room : n + m < 128) {longest : Float} {scale steps : Float32}
    (bounded : IsNonNegative longest) (scaled : IsNonNegative scale) (short : exact longest ≤ 2 ^ n)
    (slow : exact scale ≤ 2 ^ m) {elapsed : Float}
    (counted : frameSteps elapsed longest scale = .ok steps) :
    IsFinite steps ∧ |exact steps| ≤ 2 ^ (n + m) := by
  rcases frameSteps_spec bounded elapsed scale with ⟨time, finite, exactly, taken⟩
  cases counted.symm.trans taken
  have low : 0 ≤ exact time := exactly ▸ heldTime_nonneg elapsed longest
  have high : exact time ≤ 2 ^ n := exactly ▸ (heldTime_le bounded elapsed).trans short
  rcases rounds_frames finite with ⟨quotient, narrowed⟩
  have frames : |exact (time / Clock.referenceFrame)| ≤ 2 ^ n := by
    apply quotient.within (isValue_double_of_single (isValue_two_pow (by omega)))
    rw [abs_of_nonneg (div_nonneg low (zero_le_one.trans one_le_referenceFrame))]
    exact (div_le_self low one_le_referenceFrame).trans high
  have single := narrowed.within_two_pow (by omega) frames
  apply (rounds_mul single.1 scaled.finite).within_two_pow room
  rw [abs_mul, abs_of_nonneg scaled.nonneg, pow_add]
  exact mul_le_mul single.2 slow scaled.nonneg (by positivity)

end Motion

end Starfield
