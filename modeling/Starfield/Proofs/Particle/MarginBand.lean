import Starfield.Proofs.Number.Grid
import Starfield.Proofs.Number.Signed
import Starfield.Proofs.Particle.Motion

namespace Starfield

/-!
# Bands with a margin

A coordinate is brought into `[-margin, extent + margin)` in three steps: it is
moved up by the margin, brought into a band as long as the period, and moved
down again.  Each step rounds.  The result never lies outside the closed band,
but it can lie on its far end: the period may have been rounded up, so that the
last number before it is the sum of the far end and the margin, rounded.
-/

namespace Motion

variable {value extent margin : Float32}

theorem remainder_endless (finite : IsFinite value) : Single.remainder value endless = value := by
  unfold Single.remainder
  rw [show Binary.unpack endless = .infinity .positive from rfl]
  rcases unpack_of_isFinite finite with ⟨_, unpacked⟩ | ⟨_, _, _, _, unpacked⟩ <;> rw [unpacked]

/-- Bringing a coordinate into an infinite band changes it only if it is
negative. -/
theorem wrap_endless_of_nonneg (finite : IsFinite value) (nonneg : 0 ≤ exact value) :
    wrap value endless = value := by
  have rest : Single.modulo value endless = value := by
    unfold Single.modulo
    rw [remainder_endless finite]
    exact if_neg fun below => nonneg.not_gt ((single_lt_zero_iff finite.isDefined).mp below)
  have inside : ¬endless ≤ value :=
    (not_lt_iff_le (y := endless) finite.isDefined rfl).not_right.mp (lt_endless finite)
  rw [wrap_eq, rest, if_neg inside]

theorem wrap_endless (finite : IsFinite value) :
    IsFinite (wrap value endless) ∧ 0 ≤ exact (wrap value endless) := by
  by_cases negative : value < 0
  · have raised : Single.modulo value endless = endless := by
      unfold Single.modulo
      rw [remainder_endless finite, if_pos negative, show endless.abs = endless from rfl,
        add_endless finite]
    rw [wrap_eq, raised, if_pos (show endless ≤ endless by decide)]
    exact ⟨rfl, exact_single_zero.ge⟩
  · rw [single_lt_zero_iff finite.isDefined, not_lt] at negative
    rw [wrap_endless_of_nonneg finite negative]
    exact ⟨finite, negative⟩

/-- A finite coordinate is brought below a period, finite or not. -/
theorem wrap_spec {period : Float32} (finite : IsFinite value) (defined : IsDefined period)
    (positive : 0 < exact period) : IsFinite (wrap value period) ∧
      0 ≤ exact (wrap value period) ∧ exact (wrap value period) < exact period := by
  by_cases bound : IsFinite period
  · have inside := inBand_wrap finite bound positive
    exact ⟨inside.isFinite bound, ((inBand_iff bound).mp inside).2⟩
  · rw [eq_endless defined bound positive.le]
    rcases wrap_endless finite with ⟨wrapped, nonneg⟩
    exact ⟨wrapped, nonneg, (le_abs_self _).trans_lt wrapped.abs_exact_lt⟩

/-- The period that a band with a margin repeats with. -/
def period (extent margin : Float32) : Float32 :=
  extent + 2 * margin

/-- A period is at least as long as the extent, and rounds its exact length as
far as that is finite. -/
theorem period_spec (bound : IsFinite extent) (finite : IsFinite margin) (nonneg : 0 ≤ exact margin) :
    IsDefined (period extent margin) ∧ exact extent ≤ exact (period extent margin) ∧
      (Rounds (period extent margin) (exact extent + 2 * exact margin) ∨
        limit Float32 ≤ 2 * exact margin) := by
  rcases exact_two_mul finite nonneg with ⟨defined, double⟩
  have doubleNonneg : 0 ≤ exact (2 * margin) := by
    rw [double]
    exact le_min (Exact.limit_pos _).le (by positivity)
  have longer := le_add_of_defined bound defined doubleNonneg
  refine ⟨longer.1, longer.2, ?_⟩
  rcases lt_or_ge (2 * exact margin) (limit Float32) with inside | beyond
  · rw [min_eq_right inside.le] at double
    have doubleFinite : IsFinite (2 * margin) := by
      rw [isFinite_iff, double, abs_of_nonneg (by positivity)]
      exact ⟨defined, inside⟩
    exact Or.inl (double ▸ rounds_add bound doubleFinite)
  · exact Or.inr beyond

/-- A number below the period is not above its exact length: otherwise the
period would have been rounded past a number. -/
theorem le_of_lt_period (bound : IsFinite extent) (positive : 0 < exact extent)
    (finite : IsFinite margin) (nonneg : 0 ≤ exact margin) {rest : Float32}
    (below : exact rest < exact (period extent margin)) :
    exact rest ≤ exact extent + 2 * exact margin := by
  by_contra beyond
  rw [not_le] at beyond
  rcases (period_spec bound finite nonneg).2.2 with rounds | long
  · exact absurd (rounds.le (isValue_exact rest) beyond.le) (not_le.mpr below)
  · have inside := (le_abs_self _).trans (isValue_exact (period extent margin)).bounded
    change _ ≤ limit Float32 at inside
    linarith

/-- The sums that make up a band are rounded toward its inside: the period not
up, and the far end not down. -/
structure RoundsInward (extent margin : Float32) : Prop where
  period_le : exact (period extent margin) ≤ exact extent + 2 * exact margin
  le_farEnd : exact extent + exact margin ≤ exact (extent + margin)

/-- Whole numbers that are not too large are added up without rounding. -/
theorem roundsInward_of_whole {n k : ℕ} (bound : IsFinite extent) (finite : IsFinite margin)
    (extent_eq : exact extent = n) (margin_eq : exact margin = k) (small : n + 2 * k < 2 ^ 24) :
    RoundsInward extent margin := by
  have nonneg : 0 ≤ exact margin := margin_eq ▸ Nat.cast_nonneg k
  have far : IsValue Float32 (exact extent + exact margin) := by
    rw [extent_eq, margin_eq]
    exact_mod_cast isValue_natCast (n := n + k) (by omega)
  have long : IsValue Float32 (exact extent + 2 * exact margin) := by
    rw [extent_eq, margin_eq]
    exact_mod_cast isValue_natCast small
  refine ⟨?_, ((rounds_add bound finite).exact_eq_of_isValue far).ge⟩
  rcases (period_spec bound finite nonneg).2.2 with rounds | endless
  · exact (rounds.exact_eq_of_isValue long).le
  · have inside := (le_abs_self _).trans (isValue_exact (period extent margin)).bounded
    have some : 0 ≤ exact extent := extent_eq ▸ Nat.cast_nonneg n
    change _ ≤ limit Float32 at inside
    linarith

/-- What is left below the period lies in the closed band when it is moved down
by the margin.  It misses the far end if the band rounds inward, because the
period is a step of the grid further off. -/
theorem lowered_spec {rest : Float32} (bound : IsFinite extent) (positive : 0 < exact extent)
    (finite : IsFinite margin) (nonneg : 0 ≤ exact margin) (number : IsFinite rest)
    (low : 0 ≤ exact rest) (high : exact rest < exact (period extent margin)) :
    IsFinite (rest - margin) ∧ -exact margin ≤ exact (rest - margin) ∧
      exact (rest - margin) ≤ exact (extent + margin) ∧
      (RoundsInward extent margin -> exact (rest - margin) < exact (extent + margin)) := by
  have lowered := rounds_sub number finite
  have farEnd := rounds_add bound finite
  have length := le_of_lt_period bound positive finite nonneg high
  have above : -exact margin ≤ exact (rest - margin) :=
    lowered.ge (isValue_exact margin).neg (by linarith)
  have below : exact (rest - margin) ≤ exact rest :=
    lowered.le (isValue_exact rest) (by linarith)
  refine ⟨lowered.isFinite (abs_lt.mpr ⟨?_, ?_⟩), above, ?_, fun inward => ?_⟩
  · have inside := (le_abs_self _).trans_lt finite.abs_exact_lt
    linarith
  · exact below.trans_lt ((le_abs_self _).trans_lt number.abs_exact_lt)
  · rw [lowered.exact_eq, farEnd.exact_eq]
    exact Exact.rounded_mono (by linarith)
  · have farEnd_pos : 0 < exact (extent + margin) := by linarith [inward.le_farEnd]
    rcases lt_or_ge (exact rest) (exact (extent + margin)) with short | beyond
    · exact below.trans_lt short
    · have step := (isValue_exact rest).add_step_le (isValue_exact (period extent margin))
        farEnd_pos beyond high
      have stepDown := (isValue_exact (extent + margin)).sub_step farEnd_pos
      have bounded := lowered.le stepDown (by linarith [inward.period_le, inward.le_farEnd])
      exact bounded.trans_lt (sub_lt_self _ (by positivity))

/-- A finite coordinate is brought into the closed band, and short of its far
end if the band rounds inward. -/
theorem wrapWithMargin_spec (finite : IsFinite (value + margin)) (bound : IsFinite extent)
    (positive : 0 < exact extent) (nonneg : 0 ≤ exact margin) :
    IsFinite (wrapWithMargin value extent margin) ∧
      -exact margin ≤ exact (wrapWithMargin value extent margin) ∧
      exact (wrapWithMargin value extent margin) ≤ exact (extent + margin) ∧
      (RoundsInward extent margin ->
        exact (wrapWithMargin value extent margin) < exact (extent + margin)) := by
  have someMargin := (isFinite_operands_of_add finite).2
  rcases period_spec bound someMargin nonneg with ⟨defined, longer, -⟩
  rcases wrap_spec finite defined (positive.trans_le longer) with ⟨number, low, high⟩
  exact lowered_spec bound positive someMargin nonneg number low high

/-- A coordinate that is not finite is lost. -/
theorem not_isDefined_wrapWithMargin (infinite : ¬IsFinite (value + margin)) (extent : Float32) :
    ¬IsDefined (wrapWithMargin value extent margin) :=
  not_isDefined_sub (not_isDefined_wrap infinite (period extent margin)) margin

/-! ## Bands -/

/-- The coordinate lies in `[-margin, extent + margin)`. -/
def InMarginBand (x extent margin : Float32) : Prop :=
  -margin ≤ x ∧ x < extent + margin

/-- The coordinate lies in the closed band, and off its far end if the band
rounds inward. -/
structure InClosedBand (x extent margin : Float32) : Prop where
  isFinite : IsFinite x
  low : -margin ≤ x
  high : x ≤ extent + margin
  short : RoundsInward extent margin -> x < extent + margin

/-- How far a coordinate may leave the view; possibly without end. -/
structure IsMargin (margin : Float32) : Prop where
  defined : IsDefined margin
  nonneg : 0 ≤ exact margin

/-- A coordinate of a closed band lies in the band unless it stands on the far
end. -/
theorem InClosedBand.inMarginBand_iff {x : Float32} (closed : InClosedBand x extent margin) :
    InMarginBand x extent margin ↔ ¬extent + margin ≤ x := by
  have sum := ((le_iff _ _).mp closed.high).2.1
  rw [le_iff_exact sum closed.isFinite.isDefined, not_le, ← lt_iff_exact closed.isFinite.isDefined sum]
  exact and_iff_right closed.low

theorem isDefined_of_inMarginBand {x : Float32} (inside : InMarginBand x extent margin) :
    IsDefined x :=
  ((lt_iff _ _).mp inside.2).1

theorem inClosedBand_wrapWithMargin (finite : IsFinite (value + margin)) (bound : IsFinite extent)
    (positive : 0 < exact extent) (isMargin : IsMargin margin) :
    InClosedBand (wrapWithMargin value extent margin) extent margin := by
  rcases wrapWithMargin_spec finite bound positive isMargin.nonneg with ⟨number, low, high, short⟩
  have sum := (le_add_of_defined bound isMargin.defined isMargin.nonneg).1
  constructor
  case isFinite => exact number
  case low =>
    rw [le_iff, exact_neg]
    exact ⟨isDefined_neg isMargin.defined, number.isDefined, low⟩
  case high => exact (le_iff _ _).mpr ⟨number.isDefined, sum, high⟩
  case short => exact fun inward => (lt_iff _ _).mpr ⟨number.isDefined, sum, short inward⟩

/-- A coordinate of the view itself lies in every band around it. -/
theorem inClosedBand_of_inBand {x : Float32} (inside : InBand x extent) (bound : IsFinite extent)
    (isMargin : IsMargin margin) : InClosedBand x extent margin := by
  have number := inside.isFinite bound
  rw [inBand_iff bound] at inside
  rcases le_add_of_defined bound isMargin.defined isMargin.nonneg with ⟨sum, longer⟩
  have nonneg := isMargin.nonneg
  constructor
  case isFinite => exact number
  case low =>
    rw [le_iff, exact_neg]
    exact ⟨isDefined_neg isMargin.defined, inside.1, by linarith⟩
  case high => exact (le_iff _ _).mpr ⟨inside.1, sum, inside.2.2.le.trans longer⟩
  case short => exact fun _ => (lt_iff _ _).mpr ⟨inside.1, sum, inside.2.2.trans_le longer⟩

end Motion

end Starfield
