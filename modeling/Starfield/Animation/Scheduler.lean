namespace Starfield

/-!
# Asking for frames

A host calls back for the frames that were asked for.  Anything that can be
asked for a frame is a scheduler.
-/

/-- Something that can be asked for one more frame. -/
class Scheduler (κ : Type) where
  request : κ -> κ

/-- A scheduler that only counts, for hosts that look whether a frame is
wanted. -/
structure FrameRequests where
  total : Nat := 0
  /-- A frame was asked for and not taken yet. -/
  pending : Bool := false
deriving BEq, Repr, Inhabited

namespace FrameRequests

instance : Scheduler FrameRequests where
  request requests := { total := requests.total + 1, pending := true }

/-- Take the frame that is wanted, if one is. -/
def take (requests : FrameRequests) : Bool × FrameRequests :=
  (requests.pending, { requests with pending := false })

end FrameRequests

end Starfield
