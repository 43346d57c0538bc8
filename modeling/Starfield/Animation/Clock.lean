import Starfield.Animation.Scheduler

namespace Starfield

/-!
# A simulated display

A display that refreshes at a fixed rate, but only when a frame was asked for.
Its clock stands still otherwise.
-/

structure SimulatedClock where
  intervalMs : Float
  nowMs : Float := 0
  requested : Bool := false
deriving Repr, Inhabited

namespace SimulatedClock

/-- The time between two refreshes of a display. -/
def interval (framesPerSecond : UInt32) : Float :=
  1000 / framesPerSecond.toFloat

/-- A display with at least one refresh in a second. -/
def ofRate (framesPerSecond : UInt32) : SimulatedClock where
  intervalMs := interval (max framesPerSecond 1)

instance : Scheduler SimulatedClock where
  request clock := { clock with requested := true }

/-- The time of the next refresh, if a frame was asked for. -/
def next (clock : SimulatedClock) : Option Float × SimulatedClock :=
  if clock.requested then
    (some clock.nowMs,
      { clock with nowMs := clock.nowMs + clock.intervalMs, requested := false })
  else (none, clock)

end SimulatedClock

end Starfield
