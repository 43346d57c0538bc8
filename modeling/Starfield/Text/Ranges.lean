namespace Starfield

/-!
# Sets of characters

A set of characters is a table of ranges of code points, each with its first
and its last member.
-/

/-- The character lies in one of the ranges. -/
def inRanges (table : Array (Nat × Nat)) (c : Char) : Bool :=
  table.any fun (first, last) => first ≤ c.toNat && c.toNat ≤ last

end Starfield
