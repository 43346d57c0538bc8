namespace Starfield

/-!
# The ChaCha stream

The stream of random words is the ChaCha key stream with eight rounds.  Block
number `n` is a function of the key and of `n` alone, so the word at any
position of the stream is one too.  The key is spread from a 64-bit seed by
the PCG32 sequence.
-/

namespace ChaCha

/-- Sixteen words: the input or the output of the block function. -/
abbrev Block := Vector UInt32 16

/-- Eight words. -/
abbrev Key := Vector UInt32 8

def rotateLeft (word : UInt32) (count : UInt32) : UInt32 :=
  (word <<< count) ||| (word >>> (32 - count))

/-- Mix four words of a block. -/
def quarterRound (s : Block) (a b c d : Fin 16) : Block :=
  let s := s.set a (s[a] + s[b])
  let s := s.set d (rotateLeft (s[d] ^^^ s[a]) 16)
  let s := s.set c (s[c] + s[d])
  let s := s.set b (rotateLeft (s[b] ^^^ s[c]) 12)
  let s := s.set a (s[a] + s[b])
  let s := s.set d (rotateLeft (s[d] ^^^ s[a]) 8)
  let s := s.set c (s[c] + s[d])
  s.set b (rotateLeft (s[b] ^^^ s[c]) 7)

/-- One round over the columns and one over the diagonals. -/
def doubleRound (s : Block) : Block :=
  let s := quarterRound s 0 4 8 12
  let s := quarterRound s 1 5 9 13
  let s := quarterRound s 2 6 10 14
  let s := quarterRound s 3 7 11 15
  let s := quarterRound s 0 5 10 15
  let s := quarterRound s 1 6 11 12
  let s := quarterRound s 2 7 8 13
  quarterRound s 3 4 9 14

/-- The input of block `number`: constants, key, block number, stream zero. -/
def blockInput (key : Key) (number : Nat) : Block :=
  #v[0x61707865, 0x3320646e, 0x79622d32, 0x6b206574,
    key[0], key[1], key[2], key[3], key[4], key[5], key[6], key[7],
    (UInt64.ofNat number).toUInt32, (UInt64.ofNat number >>> 32).toUInt32, 0, 0]

/-- The words of block `number`. -/
def block (key : Key) (number : Nat) : Block :=
  let input := blockInput key number
  Vector.zipWith (· + ·) input (doubleRound (doubleRound (doubleRound (doubleRound input))))

/-- The word at a position of the stream. -/
def word (key : Key) (position : Nat) : UInt32 :=
  (block key (position / 16)).get ⟨position % 16, Nat.mod_lt _ (by decide)⟩

end ChaCha

namespace Pcg

/-- The next state of the sequence. -/
def next (state : UInt64) : UInt64 :=
  state * 6364136223846793005 + 11634580027462260723

/-- The word that a state stands for. -/
def output (state : UInt64) : UInt32 :=
  let mixed := (((state >>> 18) ^^^ state) >>> 27).toUInt32
  let turn := (state >>> 59).toUInt32
  (mixed >>> turn) ||| (mixed <<< ((32 - turn) % 32))

/-- The words of the first `count` states behind a state. -/
def words (state : UInt64) : (count : Nat) -> List UInt32
  | 0 => []
  | count + 1 => output (next state) :: words (next state) count

theorem length_words (state : UInt64) (count : Nat) : (words state count).length = count := by
  induction count generalizing state with
  | zero => rfl
  | succ count ih => simp [words, ih]

/-- The key of a seed. -/
def key (seed : UInt64) : ChaCha.Key :=
  ⟨(words seed 8).toArray, by simp [length_words]⟩

end Pcg

end Starfield
