import Starfield.Fault
import Starfield.Number.Range
import Starfield.Random.Generator

namespace Starfield

/-!
# Sampling

A sampler takes words from a generator.  How many words it takes may depend on
the words themselves, never on what is done with the result.  Nothing is asked
of the generator but that it has a word and goes on to the next one.
-/

/-- Anything that stands at a word of a stream and can be moved along it. -/
class WordSource (σ : Type) where
  word : σ -> UInt32
  advance : σ -> σ

@[default_instance]
instance : WordSource Generator where
  word := Generator.word
  advance := Generator.advance

/-- A computation that draws words from a source and may find an empty choice. -/
abbrev SamplerFrom (σ : Type) := StateT σ (Except Fault)

/-- A computation that draws the words of the generator. -/
abbrev Sampler := SamplerFrom Generator

namespace Sampler

variable {σ : Type} [WordSource σ]

/-- The next word of the stream. -/
def word : SamplerFrom σ UInt32 :=
  fun source => .ok (WordSource.word source, WordSource.advance source)

/-- A multiple of `2 ^ -24` in `[0, 1)`, from one word. -/
def fraction : SamplerFrom σ Float32 := do
  let w <- word
  return (w >>> 8).toFloat32 * 5.9604644775390625e-8

/-- A point of a range. -/
def inRange (range : Range) : SamplerFrom σ Float32 := do
  return range.lerp (<- fraction)

/-- A number below `count`, which is at most `2 ^ 32`.  The scaled word decides
unless its fraction is so large that a carry is possible; then a second word
supplies the carry. -/
def below (count : Nat) : SamplerFrom σ Nat :=
  if count = 0 then throw .emptyChoice
  else do
    let scaled := (<- word).toNat * count
    let low := scaled % UInt32.size
    if UInt32.size - count < low then
      let carry := low + (<- word).toNat * count / UInt32.size
      return scaled / UInt32.size + carry / UInt32.size
    else
      return scaled / UInt32.size

/-- A count of a range, both ends included. -/
def count (range : CountRange) : SamplerFrom σ Nat := do
  let offset <- below (range.max.toNat + 1 - range.min.toNat)
  return range.min.toNat + offset

/-- An element of a list. -/
def choice {α : Type} (options : List α) : SamplerFrom σ α := do
  match options[<- below options.length]? with
  | some option => return option
  | none => throw .emptyChoice

/-- Add the results of `times` runs behind the ones that are there. -/
def repeatOnto {α : Type} (sample : SamplerFrom σ α) (done : Array α) :
    (times : Nat) -> SamplerFrom σ (Array α)
  | 0 => pure done
  | times + 1 => do repeatOnto sample (done.push (<- sample)) times

/-- The results of `times` runs, in order. -/
def replicate {α : Type} (times : Nat) (sample : SamplerFrom σ α) : SamplerFrom σ (List α) := do
  return (<- repeatOnto sample #[] times).toList

end Sampler

end Starfield
