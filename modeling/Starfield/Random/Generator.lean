import Starfield.Random.ChaCha

namespace Starfield

/-!
# The random generator

A generator is a place in the stream of one key.  It keeps the block that it
stands in, which is a fact about the key and the position and no further
state: two generators of one key at one position are equal.
-/

structure Generator where
  key : ChaCha.Key
  position : Nat
  current : ChaCha.Block
  current_eq : current = ChaCha.block key (position / 16)

namespace Generator

/-- The generator at the beginning of a seed's stream. -/
def ofSeed (seed : UInt64) : Generator :=
  ⟨Pcg.key seed, 0, ChaCha.block (Pcg.key seed) 0, rfl⟩

theorem ext {g h : Generator} (key : g.key = h.key) (position : g.position = h.position) :
    g = h := by
  obtain ⟨_, _, _, current_eq⟩ := g
  obtain ⟨_, _, _, other_eq⟩ := h
  subst key position current_eq other_eq
  rfl

/-- The word that the generator stands at. -/
def word (g : Generator) : UInt32 :=
  g.current.get ⟨g.position % 16, Nat.mod_lt _ (by decide)⟩

/-- One word further. -/
def advance (g : Generator) : Generator :=
  if same : (g.position + 1) / 16 = g.position / 16 then
    ⟨g.key, g.position + 1, g.current, by rw [same]; exact g.current_eq⟩
  else
    ⟨g.key, g.position + 1, ChaCha.block g.key ((g.position + 1) / 16), rfl⟩

theorem word_eq (g : Generator) : g.word = ChaCha.word g.key g.position := by
  simp only [word, ChaCha.word, g.current_eq]

theorem advance_key (g : Generator) : g.advance.key = g.key := by
  unfold advance
  split <;> rfl

theorem advance_position (g : Generator) : g.advance.position = g.position + 1 := by
  unfold advance
  split <;> rfl

/-- The place that a generator comes to depends on nothing but the number of
words. -/
theorem key_position_repeat_advance (g : Generator) (count : Nat) :
    (Nat.repeat advance count g).key = g.key ∧
      (Nat.repeat advance count g).position = g.position + count := by
  induction count with
  | zero => exact ⟨rfl, rfl⟩
  | succ count ih =>
      refine ⟨(advance_key _).trans ih.1, (advance_position _).trans ?_⟩
      rw [ih.2, Nat.add_assoc]

/-- A generator goes along the stream of its key: there is only one generator of
this key with the position that some words lead to, and it stands at the word that
the stream has there. -/
theorem eq_repeat_advance {g later : Generator} (key : later.key = g.key) {count : Nat}
    (position : later.position = g.position + count) :
    later = Nat.repeat advance count g ∧ later.word = ChaCha.word g.key (g.position + count) := by
  have place := key_position_repeat_advance g count
  constructor
  · exact ext (key.trans place.1.symm) (position.trans place.2.symm)
  · rw [word_eq, key, position]

end Generator

end Starfield
