import Starfield.Surface.Basic

namespace Starfield

/-!
# Recording surfaces

A surface that keeps the drawings instead of painting them.
-/

structure RecordingSurface where
  /-- The last size; none before the first change of size. -/
  lastSize : Option PhysicalSize := none
  commands : Array DrawCommand := #[]
deriving Inhabited

namespace RecordingSurface

/-- Forget the drawings, but not the size. -/
def reset (surface : RecordingSurface) : RecordingSurface :=
  { surface with commands := #[] }

/-- The number of drawings with a property. -/
def count (surface : RecordingSurface) (property : DrawCommand -> Bool) : Nat :=
  surface.commands.countP property

/-- Keep one more drawing. -/
def record (surface : RecordingSurface) (command : DrawCommand) : RecordingSurface where
  lastSize :=
    match command with
    | .resize size => some size
    | _ => surface.lastSize
  commands := surface.commands.push command

instance : Surface RecordingSurface where
  size surface := surface.lastSize.getD ⟨0, 0⟩
  draw command surface := .ok (surface.record command)

end RecordingSurface

end Starfield
