import Starfield.Number.Layout

namespace Starfield

/-!
# Frame statistics

Counters of an animation and an estimate of its frame rate.  The estimate is
made once for every window of sixty frames, from the times at its two ends.
-/

structure FrameStats where
  framesRendered : Nat := 0
  /-- Layouts of the field, the first one included. -/
  regenerations : Nat := 0
  /-- Changes of the view before debouncing. -/
  resizeEvents : Nat := 0
  lastDrawCalls : Nat := 0
  /-- The estimate of the last full window. -/
  fps : Option Float := none
  starCount : Nat := 0
  viewportWidth : Float32 := 0
  viewportHeight : Float32 := 0
  lastTimestampMs : Float := 0
deriving BEq, Repr, Inhabited

namespace FrameStats

/-- A number in the report; what is no number is nothing. -/
def numberText {α : Type} [Binary α] (layout : Layout) (x : α) : String :=
  match Binary.unpack x with
  | .notANumber | .infinity _ => "null"
  | _ => layout.text x

/-- The report, one line for each entry. -/
def report (stats : FrameStats) : String :=
  let entries : List (String × String) := [
    ("frames_rendered", toString stats.framesRendered),
    ("regenerations", toString stats.regenerations),
    ("resize_events", toString stats.resizeEvents),
    ("last_draw_calls", toString stats.lastDrawCalls),
    ("fps", (stats.fps.map (numberText .statistic)).getD "null"),
    ("star_count", toString stats.starCount),
    ("viewport_width", numberText .narrowStatistic stats.viewportWidth),
    ("viewport_height", numberText .narrowStatistic stats.viewportHeight),
    ("last_timestamp_ms", numberText .statistic stats.lastTimestampMs)]
  "\x7b\n" ++ ",\n".intercalate (entries.map fun (name, value) =>
    "  \"" ++ name ++ "\": " ++ value) ++ "\n\x7d"

end FrameStats

/-- The frames between two estimates. -/
def fpsWindow : Nat := 60

/-- The window that is being filled. -/
structure FpsProbe where
  windowStart : Option Float := none
  frames : Nat := 0
deriving Repr, Inhabited

namespace FpsProbe

/-- The rate of some frames in a time, if any time has passed. -/
def rate? (frames : Nat) (elapsedMs : Float) : Option Float :=
  if 0 < elapsedMs then some ((UInt64.ofNat frames).toFloat * 1000 / elapsedMs) else none

/-- Count a frame.  There is an estimate when the window is full and its times
allow one; the next window starts with the frame that filled this one. -/
def record (timeMs : Float) (probe : FpsProbe) : Option Float × FpsProbe :=
  match probe.windowStart with
  | none => (none, { probe with windowStart := some timeMs })
  | some start =>
    let frames := probe.frames + 1
    if frames < fpsWindow then (none, { probe with frames })
    else (rate? frames (timeMs - start), { windowStart := some timeMs, frames := 0 })

end FpsProbe

end Starfield
