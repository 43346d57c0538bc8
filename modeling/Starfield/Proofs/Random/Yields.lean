import Starfield.Proofs.Number.Conversion
import Starfield.Random.Sampler

namespace Starfield

/-!
# What samplers yield

A sampler yields a property if every run of it has a result with that
property, wherever the source stands and whatever its words are.  So a
statement of this kind holds for every seed, for every other generator too, and
rules out faults.  The stream itself stays unopened: only that a word is below
`2 ^ 32` is used.
-/

namespace Sampler

variable {σ α β : Type}

/-- Every run has a result, and the result has the property. -/
def Yields (property : α -> Prop) (sample : SamplerFrom σ α) : Prop :=
  forall source : σ, Exists fun value => Exists fun next =>
    sample source = .ok (value, next) ∧ property value

namespace Yields

variable {property : α -> Prop} {sample : SamplerFrom σ α}

theorem pure {value : α} (holds : property value) :
    Yields property (Pure.pure value : SamplerFrom σ α) :=
  fun source => ⟨value, source, rfl, holds⟩

theorem bind {result : β -> Prop} {next : α -> SamplerFrom σ β} (first : Yields property sample)
    (rest : forall value, property value -> Yields result (next value)) :
    Yields result (sample >>= next) := by
  intro source
  rcases first source with ⟨value, moved, drawn, holds⟩
  rcases rest value holds moved with ⟨final, last, finished, reached⟩
  refine ⟨final, last, ?_, reached⟩
  change (sample source >>= fun drawn => next drawn.1 drawn.2) = _
  rw [drawn]
  exact finished

theorem mono {weaker : α -> Prop} (yields : Yields property sample)
    (implies : forall value, property value -> weaker value) : Yields weaker sample := by
  intro source
  rcases yields source with ⟨value, next, drawn, holds⟩
  exact ⟨value, next, drawn, implies value holds⟩

end Yields

variable [WordSource σ]

theorem yields_word : Yields (fun _ => True) (word : SamplerFrom σ UInt32) :=
  fun _ => ⟨_, _, rfl, trivial⟩

/-! ## Numbers -/

/-- A multiple of `2 ^ -24` in `[0, 1)`. -/
structure IsFraction (t : Float32) : Prop where
  finite : IsFinite t
  exact_eq : Exists fun count : ℕ => count < 2 ^ 24 ∧ exact t = count * 2 ^ (-24 : ℤ)

namespace IsFraction

variable {t : Float32}

theorem nonneg (fraction : IsFraction t) : 0 ≤ exact t := by
  rcases fraction.exact_eq with ⟨count, -, equal⟩
  rw [equal]
  positivity

theorem lt_one (fraction : IsFraction t) : exact t < 1 := by
  rcases fraction.exact_eq with ⟨count, small, equal⟩
  have bound : (count : ℚ) < 2 ^ 24 := by exact_mod_cast small
  rw [equal]
  norm_num
  linarith

end IsFraction

theorem exact_fractionStep : exact (5.9604644775390625e-8 : Float32) = 2 ^ (-24 : ℤ) := by
  rw [exact_of_unpack (u := .finite .positive 8388608 (-47) (by decide)) rfl]
  norm_num [Exact.value, Exact.signed]

theorem isFraction_word (w : UInt32) :
    IsFraction ((w >>> 8).toFloat32 * 5.9604644775390625e-8) := by
  have small : (w >>> 8).toNat < 2 ^ 24 := by
    have bound := w.toNat_lt
    rw [UInt32.toNat_shiftRight]
    change w.toNat >>> 8 < 2 ^ 24
    rw [Nat.shiftRight_eq_div_pow]
    omega
  have whole := rounds_toFloat32 (w >>> 8)
  generalize (w >>> 8).toFloat32 = scaled at *
  generalize (w >>> 8).toNat = count at *
  have bound : (count : ℚ) < 2 ^ 24 := by exact_mod_cast small
  have counted := whole.exact_eq_of_isValue (isValue_natCast small)
  have finite : IsFinite scaled := by
    apply whole.isFinite
    rw [counted, Nat.abs_cast, limit_single]
    exact bound.trans (pow_lt_pow_right₀ one_lt_two (by decide))
  have product := rounds_mul finite (y := (5.9604644775390625e-8 : Float32)) rfl
  rw [counted, exact_fractionStep] at product
  have inside : |(count * 2 ^ (-24 : ℤ) : ℚ)| < limit Float32 := by
    rw [abs_of_nonneg (by positivity), limit_single]
    norm_num
    linarith
  have value : IsValue Float32 (count * 2 ^ (-24 : ℤ)) := by
    refine ⟨⟨count, -24, by rw [Int.cast_natCast], ?_, by decide⟩, inside.le⟩
    rw [Nat.abs_cast]
    exact_mod_cast small
  have equal := product.exact_eq_of_isValue value
  exact ⟨product.isFinite (equal ▸ inside), count, small, equal⟩

theorem yields_fraction : Yields IsFraction (fraction : SamplerFrom σ Float32) :=
  yields_word.bind fun w _ => .pure (isFraction_word w)

/-- A value that a range can give. -/
def IsPoint (range : Range) (x : Float32) : Prop :=
  Exists fun t => IsFraction t ∧ x = range.lerp t

theorem yields_inRange (range : Range) :
    Yields (IsPoint range) (inRange range : SamplerFrom σ Float32) :=
  yields_fraction.bind fun t fraction => .pure ⟨t, fraction, rfl⟩

/-! ## Choices -/

/-- A scaled word stays below the scale, with or without the carry of another
word. -/
theorem yields_below {count : ℕ} (positive : 0 < count) :
    Yields (fun drawn => drawn < count) (below count : SamplerFrom σ ℕ) := by
  unfold below
  rw [if_neg positive.ne']
  refine yields_word.bind fun w _ => ?_
  have scaled (other : UInt32) : other.toNat * count + count ≤ UInt32.size * count := by
    have bound : other.toNat + 1 ≤ UInt32.size := other.toNat_lt
    calc other.toNat * count + count = (other.toNat + 1) * count := by rw [Nat.succ_mul]
      _ ≤ UInt32.size * count := Nat.mul_le_mul_right count bound
  have first := scaled w
  dsimp only
  split_ifs with carries
  · refine yields_word.bind fun other _ => .pure ?_
    have second := scaled other
    have whole := Nat.div_add_mod (w.toNat * count) UInt32.size
    have carry : other.toNat * count / UInt32.size < count :=
      Nat.div_lt_of_lt_mul (by omega)
    have together : w.toNat * count / UInt32.size +
        (w.toNat * count % UInt32.size + other.toNat * count / UInt32.size) / UInt32.size =
          (w.toNat * count + other.toNat * count / UInt32.size) / UInt32.size := by
      conv_rhs => rw [← whole, Nat.add_assoc, Nat.mul_add_div (by decide)]
    rw [together]
    exact Nat.div_lt_of_lt_mul (by omega)
  · exact .pure (Nat.div_lt_of_lt_mul (by omega))

theorem yields_count {range : CountRange} (ordered : range.min ≤ range.max) :
    Yields (fun drawn => range.min.toNat ≤ drawn ∧ drawn ≤ range.max.toNat)
      (count range : SamplerFrom σ ℕ) := by
  have bounds : range.min.toNat ≤ range.max.toNat := ordered
  refine (yields_below (show 0 < range.max.toNat + 1 - range.min.toNat by omega)).bind
    fun offset small => .pure ?_
  omega

theorem yields_choice {options : List α} (nonempty : options ≠ []) :
    Yields (fun drawn => drawn ∈ options) (choice options : SamplerFrom σ α) := by
  refine (yields_below (List.length_pos_iff.mpr nonempty)).bind fun index small => ?_
  rw [List.getElem?_eq_getElem small]
  exact .pure (List.getElem_mem small)

/-! ## Repetition -/

omit [WordSource σ] in
theorem yields_repeatOnto {property : α -> Prop} {sample : SamplerFrom σ α}
    (yields : Yields property sample) (times : ℕ) (done : Array α) :
    Yields (fun all => Exists fun fresh : List α => all.toList = done.toList ++ fresh ∧
      fresh.length = times ∧ forall value, value ∈ fresh -> property value)
      (repeatOnto sample done times) := by
  induction times generalizing done with
  | zero => exact .pure ⟨[], by simp, rfl, nofun⟩
  | succ times ih =>
      refine yields.bind fun value holds => (ih (done.push value)).mono ?_
      rintro all ⟨fresh, listed, counted, others⟩
      refine ⟨value :: fresh, by simp [listed], by simp [counted], ?_⟩
      rintro other (_ | ⟨_, inside⟩)
      · exact holds
      · exact others other inside

omit [WordSource σ] in
/-- Repeated runs yield as many results as asked for, each with the property. -/
theorem yields_replicate {property : α -> Prop} {sample : SamplerFrom σ α}
    (yields : Yields property sample) (times : ℕ) :
    Yields (fun all : List α => all.length = times ∧ forall value, value ∈ all -> property value)
      (replicate times sample) := by
  refine (yields_repeatOnto yields times #[]).bind ?_
  rintro all ⟨fresh, listed, counted, others⟩
  refine .pure ?_
  rw [listed]
  exact ⟨counted, others⟩

end Sampler

end Starfield
