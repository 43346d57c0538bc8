import Starfield.Number.Shortest
import Starfield.Proofs.Number.Operations

namespace Starfield

open Float.Model (Format UnpackedFloat)

/-!
# The shortest decimal

The search for the shortest decimal looks at finer and finer grids of decimals
and stops at the first one with a point in the neighbourhood of the number.  On
the finest grid the number itself is such a point, so the search never runs
out.  Every rational number of the neighbourhood rounds to the number.
-/

namespace Shortest

/-- A rational number of the neighbourhood. -/
structure Neighbourhood.Holds (n : Neighbourhood) (x : ℚ) : Prop where
  low : n.low * 2 ^ n.scale < x ∨ n.closed = true ∧ n.low * 2 ^ n.scale = x
  high : x < n.high * 2 ^ n.scale ∨ n.closed = true ∧ x = n.high * 2 ^ n.scale

/-! ## One grid -/

/-- The factors put the units of both sides in whole numbers. -/
theorem factors_eq (scale exponent : ℤ) : Exists fun common : ℚ => 0 < common ∧
    (numberFactor scale exponent : ℚ) = common * 2 ^ scale ∧
    (decimalFactor scale exponent : ℚ) = common * 10 ^ exponent := by
  have split {base : ℚ} (nonzero : base ≠ 0) (power : ℤ) :
      base ^ power.toNat = base ^ (-power).toNat * base ^ power := by
    rw [← zpow_natCast, ← zpow_natCast, ← zpow_add₀ nonzero]
    congr 1
    omega
  refine ⟨2 ^ (-scale).toNat * 10 ^ (-exponent).toNat, by positivity, ?_, ?_⟩
  · unfold numberFactor
    simp only [Nat.pow_eq, Nat.cast_mul, Nat.cast_pow, Nat.cast_ofNat]
    rw [split two_ne_zero scale]
    ring
  · unfold decimalFactor
    simp only [Nat.pow_eq, Nat.cast_mul, Nat.cast_pow, Nat.cast_ofNat]
    rw [split (by norm_num) exponent]
    ring

theorem numberFactor_pos (scale exponent : ℤ) : 0 < numberFactor scale exponent := by
  unfold numberFactor
  simp only [Nat.pow_eq]
  positivity

theorem decimalFactor_pos (scale exponent : ℤ) : 0 < decimalFactor scale exponent := by
  unfold decimalFactor
  simp only [Nat.pow_eq]
  positivity

/-- Comparing whole numbers compares what they count. -/
theorem mul_factor_lt_iff (scale exponent : ℤ) (counted digits : ℕ) :
    (counted * numberFactor scale exponent < digits * decimalFactor scale exponent ↔
      (counted * 2 ^ scale : ℚ) < digits * 10 ^ exponent) ∧
    (digits * decimalFactor scale exponent < counted * numberFactor scale exponent ↔
      (digits * 10 ^ exponent : ℚ) < counted * 2 ^ scale) ∧
    (counted * numberFactor scale exponent = digits * decimalFactor scale exponent ↔
      (counted * 2 ^ scale : ℚ) = digits * 10 ^ exponent) := by
  rcases factors_eq scale exponent with ⟨common, positive, number, decimal⟩
  have counts : ((counted * numberFactor scale exponent : ℕ) : ℚ) =
      common * (counted * 2 ^ scale) := by
    push_cast
    rw [number]
    ring
  have places : ((digits * decimalFactor scale exponent : ℕ) : ℚ) =
      common * (digits * 10 ^ exponent) := by
    push_cast
    rw [decimal]
    ring
  refine ⟨?_, ?_, ?_⟩
  · rw [← Nat.cast_lt (α := ℚ), counts, places, mul_lt_mul_iff_right₀ positive]
  · rw [← Nat.cast_lt (α := ℚ), counts, places, mul_lt_mul_iff_right₀ positive]
  · rw [← Nat.cast_inj (R := ℚ), counts, places, mul_right_inj' positive.ne']

/-- A point passes an end of the neighbourhood. -/
def Neighbourhood.admits (n : Neighbourhood) (value bound : ℕ) : Bool :=
  value < bound || (n.closed && value = bound)

theorem Neighbourhood.admits_iff (n : Neighbourhood) (value bound : ℕ) :
    n.admits value bound = true ↔ value < bound ∨ n.closed = true ∧ value = bound := by
  simp only [admits, Bool.or_eq_true, Bool.and_eq_true, decide_eq_true_eq]

/-- The grid has two candidates, the points next to the middle.  Each of them
has only one end to pass. -/
theorem onGrid?_eq (tie : Tie) (n : Neighbourhood) (exponent : ℤ) :
    let factor := numberFactor n.scale exponent
    let unit := decimalFactor n.scale exponent
    let down := n.middle * factor / unit
    onGrid? tie n exponent =
      if n.admits (n.low * factor) (down * unit) && n.admits ((down + 1) * unit) (n.high * factor) then
        some (if prefersUpper tie down (2 * (n.middle * factor % unit)) unit then down + 1 else down)
      else if n.admits (n.low * factor) (down * unit) then some down
      else if n.admits ((down + 1) * unit) (n.high * factor) then some (down + 1)
      else none :=
  rfl

/-- What is found on a grid lies in the neighbourhood. -/
theorem holds_of_onGrid? {tie : Tie} {n : Neighbourhood} {exponent : ℤ} {digits : ℕ}
    (below : n.low < n.middle) (above : n.middle < n.high)
    (found : onGrid? tie n exponent = some digits) : n.Holds (digits * 10 ^ exponent) := by
  have factor := numberFactor_pos n.scale exponent
  have unit := decimalFactor_pos n.scale exponent
  have compares := mul_factor_lt_iff n.scale exponent
  rw [onGrid?_eq] at found
  set down := n.middle * numberFactor n.scale exponent / decimalFactor n.scale exponent with down_eq
  have floor : down * decimalFactor n.scale exponent ≤ n.middle * numberFactor n.scale exponent :=
    Nat.div_mul_le_self _ _
  have ceiling : n.middle * numberFactor n.scale exponent <
      (down + 1) * decimalFactor n.scale exponent := by
    rw [mul_comm (down + 1)]
    exact Nat.lt_mul_div_succ _ unit
  have lower (inside : n.admits (n.low * numberFactor n.scale exponent)
      (down * decimalFactor n.scale exponent) = true) : n.Holds (down * 10 ^ exponent) := by
    rw [n.admits_iff, (compares n.low down).1, (compares n.low down).2.2] at inside
    have high := floor.trans_lt (Nat.mul_lt_mul_of_pos_right above factor)
    exact ⟨inside, Or.inl ((compares n.high down).2.1.mp high)⟩
  have upper (inside : n.admits ((down + 1) * decimalFactor n.scale exponent)
      (n.high * numberFactor n.scale exponent) = true) :
      n.Holds ((down + 1 : ℕ) * 10 ^ exponent) := by
    rw [n.admits_iff, (compares n.high (down + 1)).2.1, eq_comm (b := n.high * _),
      (compares n.high (down + 1)).2.2, eq_comm (b := ((down + 1 : ℕ) : ℚ) * _)] at inside
    have low := (Nat.mul_lt_mul_of_pos_right below factor).trans ceiling
    exact ⟨Or.inl ((compares n.low (down + 1)).1.mp low), inside⟩
  split_ifs at found with both preferred onlyLower onlyUpper <;> rw [← Option.some.inj found]
  · exact upper (Bool.and_eq_true_iff.mp both).2
  · exact lower (Bool.and_eq_true_iff.mp both).1
  · exact lower onlyLower
  · exact upper onlyUpper

/-- Something is found on a grid that has the middle itself. -/
theorem onGrid?_ne_none (tie : Tie) {n : Neighbourhood} {exponent : ℤ} (below : n.low < n.middle)
    {digits : ℕ} (middle : (n.middle * 2 ^ n.scale : ℚ) = digits * 10 ^ exponent) :
    onGrid? tie n exponent ≠ none := by
  have unit := decimalFactor_pos n.scale exponent
  have exactly := (mul_factor_lt_iff n.scale exponent n.middle digits).2.2.mpr middle
  have lower : n.admits (n.low * numberFactor n.scale exponent)
      (n.middle * numberFactor n.scale exponent / decimalFactor n.scale exponent *
        decimalFactor n.scale exponent) = true := by
    rw [n.admits_iff, exactly, Nat.mul_div_cancel _ unit, ← exactly]
    exact Or.inl (Nat.mul_lt_mul_of_pos_right below (numberFactor_pos n.scale exponent))
  rw [onGrid?_eq, lower, if_pos rfl]
  split_ifs <;> simp

/-! ## The search -/

/-- A search that could end on its last grid ends on one of its grids. -/
theorem search_spec {tie : Tie} {n : Neighbourhood} {first : ℤ} {steps : ℕ}
    (last : onGrid? tie n (first - steps) ≠ none) : Exists fun decimal =>
      search tie n first steps = decimal ∧ first - steps ≤ decimal.exponent ∧
        decimal.exponent ≤ first ∧ onGrid? tie n decimal.exponent = some decimal.digits := by
  induction steps generalizing first with
  | zero =>
      rw [Nat.cast_zero, sub_zero] at last
      rcases Option.ne_none_iff_exists'.mp last with ⟨digits, found⟩
      refine ⟨⟨digits, first⟩, ?_, by simp, le_rfl, found⟩
      rw [search, found, Option.getD_some]
  | succ steps ih =>
      rw [search]
      cases found : onGrid? tie n first with
      | some digits => exact ⟨⟨digits, first⟩, rfl, by dsimp only; omega, le_rfl, found⟩
      | none =>
          have shifted : first - 1 - (steps : ℤ) = first - ((steps + 1 : ℕ) : ℤ) := by
            push_cast
            ring
          rw [← shifted] at last ⊢
          rcases ih last with ⟨decimal, reached, low, high, found⟩
          exact ⟨decimal, reached, low, high.trans (by omega), found⟩

theorem low_lt_middle (format : Format) {mantissa : ℕ} (positive : 0 < mantissa) (exponent : ℤ) :
    (neighbourhood format mantissa exponent).low < (neighbourhood format mantissa exponent).middle := by
  unfold neighbourhood
  dsimp only
  split_ifs <;> omega

/-- The middle of the neighbourhood is the number. -/
theorem middle_eq (format : Format) (mantissa : ℕ) (exponent : ℤ) :
    ((neighbourhood format mantissa exponent).middle *
      2 ^ (neighbourhood format mantissa exponent).scale : ℚ) = mantissa * 2 ^ exponent := by
  change ((4 * mantissa : ℕ) : ℚ) * 2 ^ (exponent - 2) = _
  rw [zpow_sub₀ two_ne_zero]
  push_cast
  ring

/-- A binary number is a whole multiple of the finest power of ten. -/
theorem exists_multiple (mantissa : ℕ) (exponent : ℤ) : Exists fun digits : ℕ =>
    (mantissa * 2 ^ exponent : ℚ) = digits * 10 ^ min exponent 0 := by
  rcases le_total 0 exponent with whole | fraction
  · refine ⟨mantissa * 2 ^ exponent.toNat, ?_⟩
    rw [min_eq_right whole, zpow_zero, mul_one]
    push_cast
    rw [← zpow_natCast, Int.toNat_of_nonneg whole]
  · refine ⟨mantissa * 5 ^ (-exponent).toNat, ?_⟩
    rw [min_eq_left fraction]
    push_cast
    rw [← zpow_natCast, Int.toNat_of_nonneg (by omega), mul_assoc,
      show (10 : ℚ) = 5 * 2 by norm_num, mul_zpow, ← mul_assoc ((5 : ℚ) ^ (-exponent)),
      ← zpow_add₀ (by norm_num), neg_add_cancel, zpow_zero, one_mul]

end Shortest

open Shortest in
/-- The shortest decimal lies in the neighbourhood, and its exponent between
those of the finest and of the coarsest grid. -/
theorem shortest_spec (tie : Tie) (format : Format) {mantissa : ℕ} (positive : 0 < mantissa)
    (exponent : ℤ) : Exists fun decimal => shortest tie format mantissa exponent = decimal ∧
      min exponent 0 ≤ decimal.exponent ∧
      decimal.exponent ≤ coarsest (mantissa.log2 + 1 + exponent) ∧
      (neighbourhood format mantissa exponent).Holds (decimal.digits * 10 ^ decimal.exponent) := by
  have below := low_lt_middle format positive exponent
  have above : (neighbourhood format mantissa exponent).middle <
      (neighbourhood format mantissa exponent).high := Nat.lt_add_of_pos_right two_pos
  set first := coarsest (mantissa.log2 + 1 + exponent) with first_eq
  have finest : min exponent 0 ≤ first := by
    rw [first_eq]
    unfold coarsest
    split_ifs <;> omega
  have steps : first - ((first - min exponent 0).toNat : ℤ) = min exponent 0 := by omega
  rcases exists_multiple mantissa exponent with ⟨digits, multiple⟩
  have last := onGrid?_ne_none tie below ((middle_eq format mantissa exponent).trans multiple)
  rw [← steps] at last
  rcases search_spec last with ⟨decimal, reached, low, high, found⟩
  rw [steps] at low
  exact ⟨decimal, reached, low, high, holds_of_onGrid? below above found⟩

/-! ## Rounding back -/

namespace Exact

/-- A number that is nearer to a whole one than to any other rounds to it.  At
half the distance it does so if the whole one is even. -/
theorem toWhole_eq_of_near {x : ℚ} {n : ℤ} (low : n - 1 / 2 < x ∨ n % 2 = 0 ∧ n - 1 / 2 = x)
    (high : x < n + 1 / 2 ∨ n % 2 = 0 ∧ x = n + 1 / 2) : toWhole x = n := by
  have least : n - 1 / 2 ≤ x := by rcases low with less | ⟨-, same⟩ <;> linarith
  have most : x ≤ n + 1 / 2 := by rcases high with less | ⟨-, same⟩ <;> linarith
  unfold toWhole
  rcases le_or_gt (n : ℚ) x with above | below
  · have floor : ⌊x⌋ = n := Int.floor_eq_iff.mpr ⟨above, by linarith⟩
    have fraction : Int.fract x = x - n := by rw [Int.fract, floor]
    rw [fraction, floor]
    rcases high with less | ⟨even, same⟩
    · rw [if_pos (by linarith)]
    · rw [if_neg (by linarith), if_neg (by linarith), even, add_zero]
  · have floor : ⌊x⌋ = n - 1 := Int.floor_eq_iff.mpr ⟨by push_cast; linarith, by push_cast; linarith⟩
    have fraction : Int.fract x = x - n + 1 := by
      rw [Int.fract, floor]
      push_cast
      ring
    rw [fraction, floor]
    rcases low with less | ⟨even, same⟩
    · rw [if_neg (by linarith), if_pos (by linarith), sub_add_cancel]
    · rw [if_neg (by linarith), if_neg (by linarith)]
      omega

variable {format : Format}

theorem lowEnd_eq (mantissa : ℕ) (exponent : ℤ) :
    (Shortest.neighbourhood format mantissa exponent).low =
      if mantissa = 2 ^ format.mantissaBitsWithoutImplicit ∧ format.minExponent < exponent then
        4 * mantissa - 1
      else 4 * mantissa - 2 := by
  have bias := minExponent_add_bias format
  have least : 1 - (format.exponentBias + format.mantissaBitsWithoutImplicit : ℤ) =
      format.minExponent := by omega
  unfold Shortest.neighbourhood
  rw [least]
  rfl

/-- The neighbourhood in steps of the number's own grid. -/
theorem steps_of_holds {mantissa : ℕ} {exponent : ℤ} {steps : ℚ}
    (holds : (Shortest.neighbourhood format mantissa exponent).Holds (steps * 2 ^ exponent)) :
    let low : ℚ := (Shortest.neighbourhood format mantissa exponent).low / 4
    (low < steps ∨ (mantissa : ℤ) % 2 = 0 ∧ low = steps) ∧
      (steps < mantissa + 1 / 2 ∨ (mantissa : ℤ) % 2 = 0 ∧ steps = mantissa + 1 / 2) := by
  intro low
  have power : (0 : ℚ) < 2 ^ exponent := by positivity
  have even : decide (mantissa % 2 = 0) = true ↔ (mantissa : ℤ) % 2 = 0 := by
    rw [decide_eq_true_eq]
    omega
  have quarter (n : ℕ) : (n * 2 ^ (exponent - 2) : ℚ) = n / 4 * 2 ^ exponent := by
    rw [zpow_sub₀ two_ne_zero]
    ring
  have above : ((4 * mantissa + 2 : ℕ) : ℚ) / 4 = mantissa + 1 / 2 := by
    push_cast
    ring
  have lower := holds.low
  have upper := holds.high
  change ((Shortest.neighbourhood format mantissa exponent).low : ℚ) * 2 ^ (exponent - 2) < _ ∨
    decide (mantissa % 2 = 0) = true ∧
      ((Shortest.neighbourhood format mantissa exponent).low : ℚ) * 2 ^ (exponent - 2) = _ at lower
  change _ < ((4 * mantissa + 2 : ℕ) : ℚ) * 2 ^ (exponent - 2) ∨
    decide (mantissa % 2 = 0) = true ∧
      _ = ((4 * mantissa + 2 : ℕ) : ℚ) * 2 ^ (exponent - 2) at upper
  rw [quarter, mul_lt_mul_iff_left₀ power, mul_left_inj' power.ne', even] at lower upper
  rw [above] at upper
  exact ⟨lower, upper⟩

/-- A number that has enough steps for its grid, and not too many, has that grid
around it. -/
theorem spacing_of_steps {steps : ℚ} {exponent : ℤ} (least : format.minExponent ≤ exponent)
    (positive : 0 < steps) (short : steps < 2 ^ format.mantissaBits)
    (long : exponent = format.minExponent ∨ 2 ^ format.mantissaBitsWithoutImplicit ≤ steps) :
    spacing format (steps * 2 ^ exponent) = exponent := by
  have size : 0 < steps * 2 ^ exponent := by positivity
  have upper : Int.log 2 (steps * 2 ^ exponent) < format.mantissaBits + exponent := by
    apply (Int.lt_zpow_iff_log_lt (by decide) size).mp
    rw [zpow_add₀ (by norm_num), zpow_natCast, Nat.cast_ofNat]
    gcongr
  unfold spacing
  rcases long with finest | long
  · omega
  · have lower : format.mantissaBitsWithoutImplicit + exponent ≤ Int.log 2 (steps * 2 ^ exponent) := by
      apply (Int.zpow_le_iff_le_log (by decide) size).mp
      rw [zpow_add₀ (by norm_num), zpow_natCast, Nat.cast_ofNat]
      gcongr
    have bits : format.mantissaBits = 1 + format.mantissaBitsWithoutImplicit := rfl
    omega

theorem onGrid_of_steps {steps : ℚ} {exponent whole : ℤ}
    (spaced : spacing format (steps * 2 ^ exponent) = exponent) (near : toWhole steps = whole) :
    onGrid format (steps * 2 ^ exponent) = whole * 2 ^ exponent := by
  rw [onGrid, spaced, mul_div_cancel_right₀ _ (by positivity), near]

section Steps

variable {mantissa : ℕ} {exponent : ℤ} {steps : ℚ}

/-- What is at most half a step away from a number rounds to it, if it is on the
number's own grid. -/
theorem onGrid_of_near (positive : 0 < mantissa) (small : mantissa < 2 ^ format.mantissaBits)
    (least : format.minExponent ≤ exponent)
    (long : exponent = format.minExponent ∨ 2 ^ format.mantissaBitsWithoutImplicit ≤ steps)
    (low : mantissa - 1 / 2 < steps ∨ (mantissa : ℤ) % 2 = 0 ∧ mantissa - 1 / 2 = steps)
    (high : steps < mantissa + 1 / 2 ∨ (mantissa : ℤ) % 2 = 0 ∧ steps = mantissa + 1 / 2) :
    onGrid format (steps * 2 ^ exponent) = mantissa * 2 ^ exponent := by
  have one : (1 : ℚ) ≤ mantissa := by exact_mod_cast positive
  have bound : (mantissa : ℚ) + 1 ≤ 2 ^ format.mantissaBits := by exact_mod_cast small
  have lowest : mantissa - 1 / 2 ≤ steps := by rcases low with less | ⟨-, same⟩ <;> linarith
  have most : steps ≤ mantissa + 1 / 2 := by rcases high with less | ⟨-, same⟩ <;> linarith
  have spaced := spacing_of_steps least (by linarith) (by linarith) long
  have near : toWhole steps = (mantissa : ℤ) :=
    toWhole_eq_of_near (by exact_mod_cast low) (by exact_mod_cast high)
  rw [onGrid_of_steps spaced near, Int.cast_natCast]

/-- Below a power of two the grid is finer, by one half, and what is at most a
quarter of a step away rounds to the power. -/
theorem onGrid_of_below_power (power : mantissa = 2 ^ format.mantissaBitsWithoutImplicit)
    (above : format.minExponent < exponent) (low : mantissa - 1 / 4 ≤ steps)
    (short : steps < mantissa) :
    onGrid format (steps * 2 ^ exponent) = mantissa * 2 ^ exponent := by
  have power_eq : (mantissa : ℚ) = 2 ^ format.mantissaBitsWithoutImplicit := by
    exact_mod_cast power
  have one : (1 : ℚ) ≤ mantissa := by
    rw [power_eq]
    exact one_le_pow₀ one_le_two
  have bits : (2 : ℚ) ^ format.mantissaBits = 2 * mantissa := by
    rw [power_eq, ← pow_succ']
    congr 1
    exact Nat.add_comm _ _
  have even : 2 * (mantissa : ℤ) % 2 = 0 := by omega
  have doubled : steps * 2 ^ exponent = 2 * steps * 2 ^ (exponent - 1) := by
    rw [zpow_sub_one₀ two_ne_zero]
    ring
  have spaced : spacing format (2 * steps * 2 ^ (exponent - 1)) = exponent - 1 :=
    spacing_of_steps (by omega) (by linarith) (by linarith) (Or.inr (by linarith))
  have near : toWhole (2 * steps) = (2 * mantissa : ℤ) := by
    refine toWhole_eq_of_near ?_ (Or.inl (by push_cast; linarith))
    rcases low.lt_or_eq with less | same
    · exact Or.inl (by push_cast; linarith)
    · exact Or.inr ⟨even, by push_cast; linarith⟩
  rw [doubled, onGrid_of_steps spaced near, zpow_sub_one₀ two_ne_zero]
  push_cast
  ring

end Steps

/-- Every number of the neighbourhood of a number of the format rounds to that
number. -/
theorem onGrid_of_holds {mantissa : ℕ} {exponent : ℤ} {positive : 0 < mantissa}
    (canonical : Canonical format (.finite .positive mantissa exponent positive)) {x : ℚ}
    (holds : (Shortest.neighbourhood format mantissa exponent).Holds x) :
    onGrid format x = mantissa * 2 ^ exponent := by
  rcases canonical with ⟨small, least, full⟩
  obtain ⟨steps, rfl⟩ : Exists fun steps : ℚ => x = steps * 2 ^ exponent :=
    ⟨x / 2 ^ exponent, (div_mul_cancel₀ x (by positivity)).symm⟩
  rcases steps_of_holds holds with ⟨low, high⟩
  rw [lowEnd_eq] at low
  split_ifs at low with narrowed
  · have low : mantissa - 1 / 4 ≤ steps := by
      rw [Nat.cast_sub (by omega)] at low
      push_cast at low
      rcases low with less | ⟨-, same⟩ <;> linarith
    rcases le_or_gt (mantissa : ℚ) steps with long | short
    · have own : (2 : ℚ) ^ format.mantissaBitsWithoutImplicit ≤ steps := by
        exact_mod_cast narrowed.1 ▸ long
      exact onGrid_of_near positive small least (Or.inr own) (Or.inl (by linarith)) high
    · exact onGrid_of_below_power narrowed.1 narrowed.2 low short
  · have low : mantissa - 1 / 2 < steps ∨ (mantissa : ℤ) % 2 = 0 ∧ mantissa - 1 / 2 = steps := by
      rw [Nat.cast_sub (by omega)] at low
      push_cast at low
      rcases low with less | ⟨isEven, same⟩
      · exact Or.inl (by linarith)
      · exact Or.inr ⟨isEven, by linarith⟩
    refine onGrid_of_near positive small least ?_ low high
    rcases least.eq_or_lt with finest | above
    · exact Or.inl finest.symm
    · have leading := full.resolve_right above.ne'
      have several : 2 ^ format.mantissaBitsWithoutImplicit + 1 ≤ mantissa := by omega
      have several : (2 : ℚ) ^ format.mantissaBitsWithoutImplicit + 1 ≤ mantissa := by
        exact_mod_cast several
      have lowest : mantissa - 1 / 2 ≤ steps := by rcases low with less | ⟨-, same⟩ <;> linarith
      exact Or.inr (by linarith)

end Exact

end Starfield
