import Starfield.Geometry.Viewport

namespace Starfield

/-!
# Changes of the view

A host tells of changes of its view.  Anything that delivers changes until it
has none left is a source of them.
-/

/-- A change of the view, with the readings of the host. -/
structure ResizeEvent where
  width : Float32
  height : Float32
  pixelRatio : Float
  /-- When the change happened, on the clock of the frames. -/
  atMs : Float
deriving BEq, Repr, Inhabited

namespace ResizeEvent

def viewport (event : ResizeEvent) : Viewport :=
  .ofReadings event.width event.height event.pixelRatio

end ResizeEvent

/-- A source of changes.  Each one that it delivers leaves it with fewer. -/
class ResizeSource (ρ : Type) where
  /-- The next change that is due at a time. -/
  poll : (nowMs : Float) -> ρ -> Option (ResizeEvent × ρ)
  remaining : ρ -> Nat
  remaining_poll : forall (nowMs : Float) (source rest : ρ) (event : ResizeEvent),
    poll nowMs source = some (event, rest) -> remaining rest < remaining source

namespace ResizeSource

/-- All changes that are due at a time, and what is left of the source. -/
def drain {ρ : Type} [ResizeSource ρ] (nowMs : Float) (source : ρ) : List ResizeEvent × ρ :=
  match due : poll nowMs source with
  | none => ([], source)
  | some (event, rest) =>
    have := remaining_poll nowMs source rest event due
    let (events, last) := drain nowMs rest
    (event :: events, last)
termination_by remaining source

end ResizeSource

/-- A source without changes. -/
instance : ResizeSource Unit where
  poll _ _ := none
  remaining _ := 0
  remaining_poll := by
    intro _ _ _ _ impossible
    cases impossible

end Starfield
