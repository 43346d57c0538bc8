namespace Starfield

/-!
# Numbers as bytes and check sums

Fixed-width numbers in both orders of bytes, and the two check sums that
images carry.
-/

/-- `width` bytes, the most significant first. -/
def bigEndian (width n : Nat) : List UInt8 :=
  match width with
  | 0 => []
  | width + 1 => bigEndian width (n / 256) ++ [UInt8.ofNat n]

/-- `width` bytes, the least significant first. -/
def littleEndian (width n : Nat) : List UInt8 :=
  match width with
  | 0 => []
  | width + 1 => UInt8.ofNat n :: littleEndian width (n / 256)

/-- The number whose bytes are given, the most significant first. -/
def ofBigEndian (bytes : List UInt8) : Nat :=
  bytes.foldl (fun n byte => 256 * n + byte.toNat) 0

/-- The number whose bytes are given, the least significant first. -/
def ofLittleEndian (bytes : List UInt8) : Nat :=
  bytes.foldr (fun byte n => byte.toNat + 256 * n) 0

theorem length_bigEndian (width n : Nat) : (bigEndian width n).length = width := by
  induction width generalizing n with
  | zero => rfl
  | succ width ih => simp [bigEndian, ih]

theorem length_littleEndian (width n : Nat) : (littleEndian width n).length = width := by
  induction width generalizing n with
  | zero => rfl
  | succ width ih => simp [littleEndian, ih]

theorem ofBigEndian_bigEndian (width n : Nat) (bound : n < Nat.pow 256 width) :
    ofBigEndian (bigEndian width n) = n := by
  induction width generalizing n with
  | zero => exact (Nat.lt_one_iff.mp bound).symm
  | succ width ih =>
    have small : n / 256 < Nat.pow 256 width := by
      rw [Nat.div_lt_iff_lt_mul (by decide)]
      exact bound
    have rest := ih (n / 256) small
    simp only [ofBigEndian] at rest
    simp only [bigEndian, ofBigEndian, List.foldl_append, rest, List.foldl_cons, List.foldl_nil,
      UInt8.toNat_ofNat']
    omega

theorem ofLittleEndian_littleEndian (width n : Nat) (bound : n < Nat.pow 256 width) :
    ofLittleEndian (littleEndian width n) = n := by
  induction width generalizing n with
  | zero => exact (Nat.lt_one_iff.mp bound).symm
  | succ width ih =>
    have small : n / 256 < Nat.pow 256 width := by
      rw [Nat.div_lt_iff_lt_mul (by decide)]
      exact bound
    have rest := ih (n / 256) small
    simp only [ofLittleEndian] at rest
    simp only [littleEndian, ofLittleEndian, List.foldr_cons, rest, UInt8.toNat_ofNat']
    omega

namespace Crc

/-- Divide out one bit. -/
def step (crc : UInt32) : UInt32 :=
  if crc &&& 1 = 1 then (crc >>> 1) ^^^ 0xedb88320 else crc >>> 1

/-- Take up one byte. -/
def update (crc : UInt32) (byte : UInt8) : UInt32 :=
  step (step (step (step (step (step (step (step (crc ^^^ byte.toUInt32))))))))

/-- The cyclic redundancy check of some bytes. -/
def sum (bytes : List UInt8) : UInt32 :=
  bytes.foldl update 0xffffffff ^^^ 0xffffffff

end Crc

namespace Adler

/-- Take up one byte. -/
def update (sums : Nat × Nat) (byte : UInt8) : Nat × Nat :=
  let first := (sums.1 + byte.toNat) % 65521
  (first, (sums.2 + first) % 65521)

/-- The Adler sum of some bytes. -/
def sum (bytes : List UInt8) : Nat :=
  let (first, second) := bytes.foldl update (1, 0)
  second * 65536 + first

/-- Both halves of the sum stay below the prime. -/
theorem foldl_update_lt (bytes : List UInt8) (sums : Nat × Nat) (first : sums.1 < 65521)
    (second : sums.2 < 65521) :
    (bytes.foldl update sums).1 < 65521 ∧ (bytes.foldl update sums).2 < 65521 := by
  induction bytes generalizing sums with
  | nil => exact ⟨first, second⟩
  | cons byte bytes ih =>
    exact ih (update sums byte) (Nat.mod_lt _ (by decide)) (Nat.mod_lt _ (by decide))

theorem sum_lt (bytes : List UInt8) : sum bytes < Nat.pow 256 4 := by
  have halves := foldl_update_lt bytes (1, 0) (by decide) (by decide)
  change (bytes.foldl update (1, 0)).2 * 65536 + (bytes.foldl update (1, 0)).1 < 4294967296
  omega

end Adler

end Starfield
