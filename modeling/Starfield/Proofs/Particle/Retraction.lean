import Starfield.Proofs.Particle.Standstill
import Starfield.Proofs.Particle.Unrounded

namespace Starfield

/-!
# Retraction onto a band

Bringing a coordinate into a band is the exact reduction modulo the extent,
rounded once.  A coordinate that is not negative leaves a number of single
precision, so for it there is no rounding: it moves by whole turns, and by none
if it lies in the band already.  Below zero what is left may be rounded, up to
the far edge itself, which zero stands for.
-/

namespace Motion

variable {value extent : Float32}

/-- What is left of a coordinate in its band, rounded, with zero for the far
edge. -/
theorem exact_wrap (finite : IsFinite value) (bound : IsFinite extent)
    (positive : 0 < exact extent) : exact (wrap value extent) =
      if exact extent ≤ roundTo Float32 (wrapExactly (exact value) (exact extent)) then 0
      else roundTo Float32 (wrapExactly (exact value) (exact extent)) := by
  have rest := Single.rounds_modulo finite bound positive
  rw [← toIcoMod_eq_fract_mul positive, ← wrapExactly_eq_toIcoMod positive] at rest
  have full := le_iff_exact bound.isDefined rest.defined
  rw [rest.exact_eq] at full
  rw [wrap_eq]
  by_cases reached : extent ≤ Single.modulo value extent
  · rw [if_pos reached, if_pos (full.mp reached), exact_single_zero]
  · rw [if_neg reached, if_neg (full.not.mp reached), rest.exact_eq]

/-- Apart from whole turns a coordinate moves as far as rounding moves what is
left of it. -/
theorem exists_turns (finite : IsFinite value) (bound : IsFinite extent)
    (positive : 0 < exact extent) : Exists fun turns : ℤ =>
      exact value - exact (wrap value extent) - turns * exact extent =
        wrapExactly (exact value) (exact extent) -
          roundTo Float32 (wrapExactly (exact value) (exact extent)) := by
  rw [exact_wrap finite bound positive, wrapExactly_eq_toIcoMod positive]
  have reduced := self_sub_toIcoDiv_zsmul positive 0 (exact value)
  have short := toIcoMod_lt_right positive 0 (exact value)
  rw [zsmul_eq_mul] at reduced
  rw [zero_add] at short
  generalize toIcoMod positive 0 (exact value) = rest at *
  generalize toIcoDiv positive 0 (exact value) = turns at *
  split_ifs with full
  · -- Zero lies a turn beyond the far edge.
    have edge : roundTo Float32 rest = exact extent :=
      le_antisymm (Exact.rounded_le (isValue_exact extent) short.le) full
    refine ⟨turns + 1, ?_⟩
    push_cast
    linarith
  · exact ⟨turns, by linarith⟩

/-- A coordinate that is not negative leaves a number of single precision. -/
theorem isValue_wrapExactly (finite : IsFinite value) (bound : IsFinite extent)
    (positive : 0 < exact extent) (nonneg : 0 ≤ exact value) :
    IsValue Float32 (wrapExactly (exact value) (exact extent)) := by
  have rest := (wrap_of_nonneg finite bound positive nonneg).2
  rw [← toIcoMod_eq_fract_mul positive, ← wrapExactly_eq_toIcoMod positive] at rest
  exact rest ▸ isValue_exact (wrap value extent)

/-- What happens to a coordinate that is brought into its band. -/
structure Retracts (value extent : Float32) : Prop where
  defined : IsDefined (wrap value extent)
  inBand : InBand (wrap value extent) extent
  /-- A coordinate in the band is left alone. -/
  stays : InBand value extent -> (wrap value extent == value) = true
  /-- So once is as good as twice. -/
  settled : (wrap (wrap value extent) extent == wrap value extent) = true
  /-- The way into the band is a number of whole turns, and from below zero
  almost one. -/
  turns : Exists fun turns : ℤ =>
    (0 ≤ value -> exact value - exact (wrap value extent) = turns * exact extent) ∧
      |exact value - exact (wrap value extent) - turns * exact extent| ≤ exact extent / 2 ^ 24

/-- Bringing finite coordinates into a band of a pixel at least is a retraction
onto the band. -/
theorem wrap_retracts (finite : IsFinite value) (bound : IsFinite extent) (long : 1 ≤ extent) :
    Retracts value extent := by
  have one_le : 1 ≤ exact extent := exact_single_one ▸ ((le_iff 1 extent).mp long).2.2
  have positive : 0 < exact extent := zero_lt_one.trans_le one_le
  have inside := inBand_wrap finite bound positive
  have stays {x : Float32} (within : InBand x extent) : (wrap x extent == x) = true :=
    (within.wrap bound (.refl x)).beq within.isDefined
  rcases exists_turns finite bound positive with ⟨turns, moved⟩
  refine ⟨inside.isDefined, inside, stays, stays inside, turns, fun low => ?_, ?_⟩
  · have nonneg : 0 ≤ exact value := exact_single_zero ▸ ((le_iff 0 value).mp low).2.2
    have kept : roundTo Float32 _ = _ :=
      (isValue_wrapExactly finite bound positive nonneg).rounded_eq
    rw [kept, sub_self] at moved
    linarith
  · rw [moved, abs_sub_comm]
    refine Exact.abs_rounded_sub_le_div (isValue_exact extent) positive
      (spacing_ne_of_large (by linarith)) ?_
    have below := toIcoMod_lt_right positive 0 (exact value)
    rw [zero_add] at below
    rw [wrapExactly_eq_toIcoMod positive, abs_of_nonneg (left_le_toIcoMod positive 0 _)]
    exact below.le

/-- A hair below zero, the far edge is as near as the number before it. -/
theorem wrap_retracts_hair : IsFinite (-1e-9 : Float32) ∧ IsFinite (100 : Float32) ∧
    (1 : Float32) ≤ 100 ∧ wrap (-1e-9 : Float32) 100 = 0 ∧ Retracts (-1e-9) 100 :=
  ⟨by decide +kernel, by decide +kernel, by decide +kernel, by decide +kernel,
    wrap_retracts (by decide +kernel) (by decide +kernel) (by decide +kernel)⟩

end Motion

end Starfield
