import Starfield.Geometry.Point
import Starfield.Proofs.Number.Grid
import Starfield.Proofs.Number.Shortest
import Starfield.Proofs.Number.Signed

namespace Starfield

open Float.Model (Format UnpackedFloat totalExponent)
open Float.Model.UnpackedFloat (Accuracy)

/-!
# Roots and lengths

A root is rounded like every other result, so it is known from below by all
numbers with a smaller square.  A square that is rounded down has a root that
is rounded up again: a length is never below the coordinates it is made of,
unless they are so small that their squares lose digits.
-/

namespace Exact

variable {format : Format}

/-- What the rest of a whole root tells of its fraction. -/
def rootAccuracy (square : ℕ) : Accuracy :=
  if square - square.sqrt * square.sqrt = 0 then .exact
  else .inexact (if square - square.sqrt * square.sqrt ≤ square.sqrt then .lt else .gt)

theorem describes_less {n : ℕ} {x : ℚ} (above : n < x) (below : x < n + 1 / 2) :
    Describes (.ofMantissaAndAccuracy n (.inexact .lt)) x := by
  have whole : ⌊x⌋ = n := Int.floor_eq_iff.mpr ⟨by push_cast; linarith, by push_cast; linarith⟩
  have fraction : Int.fract x = x - n := by rw [Int.fract, whole, Int.cast_natCast]
  refine ⟨whole, ?_, ?_⟩ <;> rw [fraction]
  · exact iff_of_false Bool.false_ne_true (by linarith)
  · exact iff_of_true rfl ⟨by linarith, by linarith⟩

theorem describes_more {n : ℕ} {x : ℚ} (above : n + 1 / 2 < x) (below : x < n + 1) :
    Describes (.ofMantissaAndAccuracy n (.inexact .gt)) x := by
  have whole : ⌊x⌋ = n := Int.floor_eq_iff.mpr ⟨by push_cast; linarith, by push_cast; linarith⟩
  have fraction : Int.fract x = x - n := by rw [Int.fract, whole, Int.cast_natCast]
  refine ⟨whole, ?_, ?_⟩ <;> rw [fraction]
  · exact iff_of_true rfl (by linarith)
  · exact iff_of_true rfl ⟨by linarith, by linarith⟩

/-- Some number with the whole part of the root has the two bits that a root
is rounded by, and it is not below a number with a smaller square. -/
theorem exists_described_root {square : ℕ} {x : ℚ} (nonneg : 0 ≤ x) (below : x ^ 2 ≤ square) :
    Exists fun root : ℚ => x ≤ root ∧ (square.sqrt : ℚ) ≤ root ∧
      Describes (.ofMantissaAndAccuracy square.sqrt (rootAccuracy square)) root := by
  set whole := square.sqrt with whole_eq
  have least : whole * whole ≤ square := Nat.sqrt_le square
  have next : (square : ℚ) < (whole + 1) ^ 2 := by
    rw [sq]
    exact_mod_cast Nat.lt_succ_sqrt square
  have size : (0 : ℚ) ≤ whole := Nat.cast_nonneg whole
  unfold rootAccuracy
  rw [← whole_eq]
  split_ifs with zero low
  · have square_eq : (square : ℚ) = whole ^ 2 := by
      rw [sq]
      exact_mod_cast le_antisymm (Nat.sub_eq_zero_iff_le.mp zero) least
    exact ⟨whole, (pow_le_pow_iff_left₀ nonneg size two_ne_zero).mp (below.trans_eq square_eq),
      le_rfl, describes_exact whole⟩
  · have room : (square : ℚ) ≤ whole ^ 2 + whole := by
      rw [sq]
      exact_mod_cast (by omega : square ≤ whole * whole + whole)
    have short : x < whole + 1 / 2 := by
      refine lt_of_pow_lt_pow_left₀ 2 (by positivity) ?_
      calc x ^ 2 ≤ whole ^ 2 + whole := below.trans room
        _ < (whole + 1 / 2) ^ 2 := by linarith [(by ring : ((whole : ℚ) + 1 / 2) ^ 2 = whole ^ 2 + whole + 1 / 4)]
    exact ⟨max x (whole + 1 / 4), le_max_left _ _, le_max_of_le_right (by linarith),
      describes_less (lt_max_of_lt_right (by linarith)) (max_lt short (by linarith))⟩
  · have short : x < whole + 1 :=
      lt_of_pow_lt_pow_left₀ 2 (by positivity) (below.trans_lt next)
    exact ⟨max x (whole + 3 / 4), le_max_left _ _, le_max_of_le_right (by linarith),
      describes_more (lt_max_of_lt_right (by linarith)) (max_lt short (by linarith))⟩

theorem le_log2_sqrt {n half : ℕ} (positive : 0 < n) (long : 2 * half ≤ n.log2) :
    half ≤ n.sqrt.log2 := by
  have power : 2 ^ half ≤ n.sqrt := by
    rw [Nat.le_sqrt', ← pow_mul, mul_comm]
    exact (Nat.pow_le_pow_right two_pos long).trans (Nat.log2_self_le positive.ne')
  exact (Nat.le_log2 (Nat.sqrt_pos.mpr positive).ne').mpr power

variable (format) in
/-- The exponent of the whole root. -/
def rootExponent (mantissa : ℕ) (exponent : ℤ) : ℤ :=
  min (exponent / 2) (format.targetExponent ((totalExponent mantissa exponent + 1) / 2))

variable (format) in
/-- The number that the whole root is taken of. -/
def radicand (mantissa : ℕ) (exponent : ℤ) : ℕ :=
  mantissa <<< (exponent - 2 * rootExponent format mantissa exponent).toNat

theorem sqrt_eq {mantissa : ℕ} (exponent : ℤ) (positive : 0 < mantissa) :
    UnpackedFloat.sqrt format (.finite .positive mantissa exponent positive) =
      UnpackedFloat.roundWithAccuracy format .positive (radicand format mantissa exponent).sqrt
        (rootExponent format mantissa exponent)
        (rootAccuracy (radicand format mantissa exponent)) :=
  rfl

theorem radicand_pos {mantissa : ℕ} (exponent : ℤ) (positive : 0 < mantissa) :
    0 < radicand format mantissa exponent := by
  unfold radicand
  rw [Nat.shiftLeft_eq]
  positivity

theorem radicand_mul (mantissa : ℕ) (exponent : ℤ) :
    (radicand format mantissa exponent : ℚ) * (2 ^ rootExponent format mantissa exponent) ^ 2 =
      mantissa * 2 ^ exponent := by
  have low : rootExponent format mantissa exponent ≤ exponent / 2 := min_le_left _ _
  unfold radicand
  rw [Nat.shiftLeft_eq, Nat.cast_mul, Nat.cast_pow, Nat.cast_two, mul_assoc, ← zpow_natCast,
    ← zpow_natCast, ← zpow_mul, ← zpow_add₀ two_ne_zero]
  congr 2
  push_cast
  omega

/-- The whole root has all the digits that the format can keep. -/
theorem placed_sqrt {mantissa : ℕ} (exponent : ℤ) (positive : 0 < mantissa) :
    rootExponent format mantissa exponent ≤ format.targetExponent
      (totalExponent (radicand format mantissa exponent).sqrt
        (rootExponent format mantissa exponent)) := by
  have some : 0 < radicand format mantissa exponent := radicand_pos exponent positive
  have root := le_log2_sqrt some (Nat.mul_div_le _ _)
  have log : (radicand format mantissa exponent).log2 =
      mantissa.log2 + (exponent - 2 * rootExponent format mantissa exponent).toNat := by
    unfold radicand
    rw [Nat.shiftLeft_eq, log2_mul_two_pow positive.ne']
  have place : rootExponent format mantissa exponent = min (exponent / 2)
      (format.targetExponent ((totalExponent mantissa exponent + 1) / 2)) := rfl
  unfold Format.targetExponent totalExponent at *
  omega

/-- A root is rounded from a number that is not below any with a smaller
square. -/
theorem arrives_sqrt {mantissa : ℕ} {exponent : ℤ} (positive : 0 < mantissa) {x : ℚ}
    (nonneg : 0 ≤ x) (below : x ^ 2 ≤ mantissa * 2 ^ exponent) :
    Exists fun root : ℚ => x ≤ root ∧
      Arrives format (UnpackedFloat.sqrt format (.finite .positive mantissa exponent positive))
        (nearest format root) := by
  have power : (0 : ℚ) < 2 ^ rootExponent format mantissa exponent := by positivity
  have scaled : (x / 2 ^ rootExponent format mantissa exponent) ^ 2 ≤
      radicand format mantissa exponent := by
    rw [div_pow, div_le_iff₀ (by positivity), radicand_mul]
    exact below
  rcases exists_described_root (div_nonneg nonneg power.le) scaled with ⟨root, above, most, described⟩
  have some : 0 < radicand format mantissa exponent := radicand_pos exponent positive
  have whole : (0 : ℚ) < (radicand format mantissa exponent).sqrt := by
    exact_mod_cast Nat.sqrt_pos.mpr some
  have size : 0 < root := whole.trans_le most
  refine ⟨root * 2 ^ rootExponent format mantissa exponent, (div_le_iff₀ power).mp above, ?_⟩
  rw [nearest, if_pos (by positivity), sqrt_eq]
  exact arrives_roundWithAccuracy .positive described size (placed_sqrt exponent positive)

end Exact

section Squares

variable {x : ℚ}

/-- The square of a number that is not small loses little by rounding. -/
theorem sub_le_roundTo_square (large : 1 / 2 ^ 60 ≤ x) (inside : x ^ 2 ≤ limit Float32) :
    x ^ 2 - x ^ 2 / 2 ^ 24 ≤ roundTo Float32 (x ^ 2) := by
  have positive : 0 < x := lt_of_lt_of_le (by norm_num) large
  have square : 1 / 2 ^ 120 ≤ x ^ 2 := by
    calc (1 : ℚ) / 2 ^ 120 = (1 / 2 ^ 60) ^ 2 := by norm_num
      _ ≤ x ^ 2 := by gcongr
  have coarse : Exact.spacing (Binary.format Float32) (x ^ 2) ≠
      (Binary.format Float32).minExponent := by
    have least : (Binary.format Float32).minExponent = -149 := rfl
    have high := le_spacing_single square
    omega
  have moved : |Exact.nearest (Binary.format Float32) (x ^ 2) - x ^ 2| ≤ x ^ 2 / 2 ^ 24 :=
    Exact.abs_nearest_sub_le_div (by positivity) coarse (abs_of_pos (by positivity)).le
  refine Exact.le_rounded_of_le_nearest ?_ ?_
  · refine le_trans ?_ inside
    have part : 0 ≤ x ^ 2 / 2 ^ 24 := by positivity
    linarith
  · linarith [(abs_le.mp moved).1]

/-- The square of a power of two is not rounded. -/
theorem isValue_square_of_power {exponent : ℤ} (power : x = 2 ^ exponent)
    (low : -74 ≤ exponent) (inside : x ^ 2 ≤ limit Float32) : IsValue Float32 (x ^ 2) := by
  have square : x ^ 2 = 2 ^ (2 * exponent) := by
    rw [power, mul_comm, zpow_mul]
    rfl
  rw [square] at inside ⊢
  refine Exact.representable_two_zpow ?_ inside
  change (-149 : ℤ) ≤ _
  omega

/-- A little more than half a step below a number there is one that rounds to it. -/
theorem le_roundTo_of_half_step {steps : ℕ} (member : IsValue Float32 x)
    (equal : x = steps * 2 ^ Exact.spacing (Binary.format Float32) x)
    (leading : (2 : ℚ) ^ 23 + 1 ≤ steps) (small : steps < 2 ^ 24) :
    x ≤ roundTo Float32 ((steps - 1 / 2 + 1 / 2 ^ 26) *
      2 ^ Exact.spacing (Binary.format Float32) x) := by
  set unit : ℚ := 2 ^ Exact.spacing (Binary.format Float32) x with unit_eq
  have unit_pos : 0 < unit := by positivity
  have some : 0 < steps := by
    have positive : (0 : ℚ) < steps := by linarith
    exact_mod_cast positive
  have long : (2 : ℚ) ^ (Binary.format Float32).mantissaBitsWithoutImplicit ≤
      steps - 1 / 2 + 1 / 2 ^ 26 := by
    change (2 : ℚ) ^ 23 ≤ _
    linarith
  have digits : steps < 2 ^ (Binary.format Float32).mantissaBits := small
  have least : (Binary.format Float32).minExponent ≤ Exact.spacing (Binary.format Float32) x :=
    le_max_right _ _
  have near := Exact.onGrid_of_near some digits least (Or.inr long) (Or.inl (by linarith))
    (Or.inl (by linarith))
  rw [← unit_eq, ← equal] at near
  refine Exact.le_rounded_of_le_nearest ((le_abs_self x).trans member.bounded) ?_
  rw [Exact.nearest, if_pos (mul_nonneg (by linarith) unit_pos.le), near]

/-- Of a number that is not small, another one is found whose square is not
above the rounded square, and that rounds to it. -/
theorem exists_root_of_square (member : IsValue Float32 x) (large : 1 / 2 ^ 60 ≤ x)
    (inside : x ^ 2 ≤ limit Float32) : Exists fun root : ℚ => 0 ≤ root ∧
      root ^ 2 ≤ roundTo Float32 (x ^ 2) ∧ x ≤ roundTo Float32 root := by
  have positive : 0 < x := lt_of_lt_of_le (by norm_num) large
  by_cases kept : x ^ 2 ≤ roundTo Float32 (x ^ 2)
  · exact ⟨x, positive.le, kept, Exact.le_rounded member le_rfl⟩
  rcases member.exists_steps positive with ⟨steps, equal, -, small⟩
  have high := le_spacing_single large
  have coarse : Exact.spacing (Binary.format Float32) x ≠ (Binary.format Float32).minExponent := by
    have least : (Binary.format Float32).minExponent = -149 := rfl
    omega
  set unit : ℚ := 2 ^ Exact.spacing (Binary.format Float32) x with unit_eq
  have unit_pos : 0 < unit := by positivity
  have leading : 2 ^ 23 ≤ steps := by
    have quotient := Exact.le_div_spacing positive coarse
    rw [← unit_eq, (div_eq_iff unit_pos.ne').mpr equal] at quotient
    exact_mod_cast quotient
  have odd : steps ≠ 2 ^ 23 := by
    intro power
    have power_eq : x = 2 ^ (23 + Exact.spacing (Binary.format Float32) x) := by
      rw [zpow_add₀ two_ne_zero, ← unit_eq, equal, power]
      push_cast
      rfl
    exact kept (isValue_square_of_power power_eq (by omega) inside).rounded_eq.ge
  have leading : (2 : ℚ) ^ 23 + 1 ≤ steps := by
    exact_mod_cast Nat.lt_of_le_of_ne leading odd.symm
  have most : (steps : ℚ) + 1 ≤ 2 ^ 24 := by exact_mod_cast small
  refine ⟨(steps - 1 / 2 + 1 / 2 ^ 26) * unit, ?_, ?_,
    le_roundTo_of_half_step member equal leading small⟩
  · exact mul_nonneg (by linarith) unit_pos.le
  · refine le_trans ?_ (sub_le_roundTo_square large inside)
    have share : (steps - 1 / 2 + 1 / 2 ^ 26 : ℚ) ^ 2 ≤ steps ^ 2 - steps ^ 2 / 2 ^ 24 := by
      have product : (steps : ℚ) * (steps + 1) ≤ steps * 2 ^ 24 := by gcongr
      nlinarith
    calc ((steps - 1 / 2 + 1 / 2 ^ 26 : ℚ) * unit) ^ 2
        = (steps - 1 / 2 + 1 / 2 ^ 26 : ℚ) ^ 2 * unit ^ 2 := mul_pow _ _ 2
      _ ≤ (steps ^ 2 - steps ^ 2 / 2 ^ 24) * unit ^ 2 := by gcongr
      _ = x ^ 2 - x ^ 2 / 2 ^ 24 := by
          rw [equal]
          ring

end Squares

section Roots

variable {x y t : Float32}

theorem sqrt_endless : endless.sqrt = endless :=
  rfl

theorem not_isDefined_sqrt (undefined : ¬IsDefined t) : ¬IsDefined t.sqrt := by
  have packed : t.sqrt = Binary.pack (UnpackedFloat.sqrt (Binary.format Float32) (Binary.unpack t)) :=
    rfl
  rw [packed, unpack_of_not_isDefined undefined]
  exact not_isDefined_undefined

theorem le_sqrt (finite : IsFinite t) {root : ℚ} (nonneg : 0 ≤ root) (below : root ^ 2 ≤ exact t) :
    IsDefined t.sqrt ∧ roundTo Float32 root ≤ exact t.sqrt := by
  have packed : t.sqrt = Binary.pack (UnpackedFloat.sqrt (Binary.format Float32) (Binary.unpack t)) :=
    rfl
  have square : 0 ≤ root ^ 2 := sq_nonneg root
  rcases unpack_of_isFinite finite with ⟨sign, unpacked⟩ | ⟨sign, mantissa, exponent, some, unpacked⟩
  · rw [exact_of_unpack unpacked] at below
    have nothing : root = 0 := pow_eq_zero_iff two_ne_zero |>.mp (le_antisymm below square)
    have result : Rounds (Binary.pack (.zero sign) : Float32) 0 := rounds_pack (Exact.arrives_zero sign)
    rw [packed, unpacked, nothing]
    exact ⟨result.defined, result.exact_eq.ge⟩
  · rw [exact_of_unpack unpacked] at below
    have size : (0 : ℚ) < mantissa * 2 ^ exponent := by positivity
    rw [packed, unpacked]
    cases sign with
    | negative => exact absurd (square.trans below) (not_le.mpr (neg_neg_of_pos size))
    | positive =>
        rcases Exact.arrives_sqrt some nonneg below with ⟨larger, above, arrived⟩
        have result : Rounds _ larger := rounds_pack (α := Float32) arrived
        exact ⟨result.defined, (Exact.rounded_mono above).trans result.exact_eq.ge⟩

theorem mul_self_of_not_isFinite (defined : IsDefined x) (infinite : ¬IsFinite x) :
    x * x = endless := by
  rcases eq_endless_or_neg defined infinite with rfl | rfl <;> rfl

theorem square_spec (defined : IsDefined x) : IsDefined (x * x) ∧ 0 ≤ exact (x * x) := by
  by_cases finite : IsFinite x
  · have product := rounds_mul finite finite
    exact ⟨product.defined, product.ge Exact.Representable.zero (mul_self_nonneg _)⟩
  · rw [mul_self_of_not_isFinite defined finite, exact_endless]
    exact ⟨rfl, (Exact.limit_pos _).le⟩

/-- A sum of numbers that are not below zero is not below either of them. -/
theorem add_spec (defined : IsDefined x) (otherDefined : IsDefined y) (nonneg : 0 ≤ exact x)
    (otherNonneg : 0 ≤ exact y) :
    IsDefined (x + y) ∧ exact x ≤ exact (x + y) ∧ exact y ≤ exact (x + y) := by
  have most (z : Float32) : exact z ≤ exact endless :=
    (le_abs_self _).trans (isValue_exact z).bounded
  by_cases finite : IsFinite x <;> by_cases otherFinite : IsFinite y
  · have sum := rounds_add finite otherFinite
    exact ⟨sum.defined, sum.ge (isValue_exact x) (by linarith), sum.ge (isValue_exact y) (by linarith)⟩
  · rw [eq_endless otherDefined otherFinite otherNonneg, add_endless finite]
    exact ⟨rfl, most x, le_rfl⟩
  · rw [eq_endless defined finite nonneg, endless_add otherFinite]
    exact ⟨rfl, le_rfl, most y⟩
  · rw [eq_endless defined finite nonneg, eq_endless otherDefined otherFinite otherNonneg]
    exact ⟨rfl, le_rfl, le_rfl⟩

/-- The root of what is not below the square of a number is not below the
number, unless that is small. -/
theorem abs_le_sqrt (defined : IsDefined x) (otherDefined : IsDefined t)
    (ordered : exact (x * x) ≤ exact t) (large : 1 / 2 ^ 60 ≤ |exact x|) :
    |exact x| ≤ exact t.sqrt := by
  have nonneg := (square_spec defined).2.trans ordered
  by_cases finite : IsFinite t
  · have below := (abs_lt.mp finite.abs_exact_lt).2
    have inside : IsFinite x := by
      by_contra infinite
      rw [mul_self_of_not_isFinite defined infinite, exact_endless] at ordered
      exact absurd below ordered.not_gt
    have product := rounds_mul inside inside
    rw [← sq, ← sq_abs] at product
    have small : |exact x| ^ 2 ≤ limit Float32 := by
      by_contra beyond
      have top := product.ge (Exact.representable_limit _) (not_le.mp beyond).le
      exact absurd below (top.trans ordered).not_gt
    rcases exists_root_of_square (isValue_exact x).abs large small with ⟨root, size, square, above⟩
    rw [← product.exact_eq] at square
    exact above.trans (le_sqrt finite size (square.trans ordered)).2
  · rw [eq_endless otherDefined finite nonneg, sqrt_endless]
    exact (isValue_exact x).bounded

theorem sqrt_spec (defined : IsDefined t) (nonneg : 0 ≤ exact t) :
    IsDefined t.sqrt ∧ 0 ≤ exact t.sqrt := by
  by_cases finite : IsFinite t
  · have root := le_sqrt finite le_rfl (by rwa [zero_pow two_ne_zero])
    rwa [roundTo, Exact.Representable.zero.rounded_eq] at root
  · rw [eq_endless defined finite nonneg, sqrt_endless, exact_endless]
    exact ⟨rfl, (Exact.limit_pos _).le⟩

theorem sqrt_of_exact_eq_zero (finite : IsFinite t) (nothing : exact t = 0) :
    IsFinite t.sqrt ∧ exact t.sqrt = 0 := by
  have packed : t.sqrt = Binary.pack (UnpackedFloat.sqrt (Binary.format Float32) (Binary.unpack t)) :=
    rfl
  rcases unpack_of_isFinite finite with ⟨sign, unpacked⟩ | ⟨sign, mantissa, exponent, some, unpacked⟩
  · rw [packed, unpacked]
    cases sign <;> exact ⟨rfl, rfl⟩
  · exact absurd nothing (exact_ne_zero_of_unpack unpacked)

end Roots

namespace Point

variable {p : Point Float32}

/-- A length is never below the coordinates that are not small. -/
theorem length_spec (column : IsDefined p.x) (row : IsDefined p.y) :
    (IsDefined p.length ∧ 0 ≤ exact p.length) ∧
      (1 / 2 ^ 60 ≤ |exact p.x| -> |exact p.x| ≤ exact p.length) ∧
      (1 / 2 ^ 60 ≤ |exact p.y| -> |exact p.y| ≤ exact p.length) := by
  have first := square_spec column
  have second := square_spec row
  have sum := add_spec first.1 second.1 first.2 second.2
  exact ⟨sqrt_spec sum.1 (first.2.trans sum.2.1), abs_le_sqrt column sum.1 sum.2.1,
    abs_le_sqrt row sum.1 sum.2.2⟩

theorem not_isDefined_length (undefined : ¬IsDefined p.x ∨ ¬IsDefined p.y) :
    ¬IsDefined p.length := by
  refine not_isDefined_sqrt ?_
  rcases undefined with column | row
  · exact not_isDefined_add (not_isDefined_mul_right p.x column) (p.y * p.y)
  · exact not_isDefined_add_right (p.x * p.x) (not_isDefined_mul_right p.y row)

theorem length_of_origin (column : IsFinite p.x ∧ exact p.x = 0)
    (row : IsFinite p.y ∧ exact p.y = 0) : IsFinite p.length ∧ exact p.length = 0 := by
  have square {x : Float32} (zero : IsFinite x ∧ exact x = 0) :
      IsFinite (x * x) ∧ exact (x * x) = 0 := by
    have product := rounds_mul zero.1 zero.1
    rw [zero.2, mul_zero] at product
    exact product.spec_of_zero
  have sum := rounds_add (square column).1 (square row).1
  rw [(square column).2, (square row).2, add_zero] at sum
  exact sqrt_of_exact_eq_zero sum.spec_of_zero.1 sum.spec_of_zero.2

end Point

end Starfield
