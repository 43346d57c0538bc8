namespace Starfield

/-!
# Faults

A fault is a step that has no result because its operands were never checked.
Faults end a run.  They are kept apart from errors, which are refusals that a
caller is told about and can act on.
-/

/-- Why a step has no result. -/
inductive Fault
  /-- An interval to clamp to has crossed or undefined ends. -/
  | crossedBounds
  /-- A choice has no alternatives. -/
  | emptyChoice
  /-- A surface has `2 ^ 32` pixels or more. -/
  | areaOverflow
  /-- A pixel lies behind the last one of the surface. -/
  | pixelOutside
  /-- A cut through text falls into a character. -/
  | splitCharacter
deriving DecidableEq, Repr

end Starfield
