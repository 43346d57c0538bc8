import Starfield.Number.Order
import Starfield.Resize.Event

namespace Starfield

/-!
# Scripted changes of the view

Changes that are known beforehand are delivered in the order of their times,
each once the clock has reached it.
-/

/-- Changes that are still to come. -/
structure ScriptedResizes where
  events : List ResizeEvent := []
deriving Repr, Inhabited

namespace ScriptedResizes

/-- Changes in the order of their times; equal times keep their order. -/
def sorted (undefined : UndefinedPlace) (events : List ResizeEvent) : ScriptedResizes where
  events := events.mergeSort fun first second =>
    Double.orderKey undefined first.atMs ≤ Double.orderKey undefined second.atMs

/-- Changes as they were reported. -/
def ofEvents (events : List ResizeEvent) : ScriptedResizes :=
  sorted .last events

/-- Change number `index` of `count` from one view to another in equal
steps. -/
def dragEvent (first last : Viewport) (startMs : Float) (count : UInt32) (spacingMs : Float)
    (index : Nat) : ResizeEvent :=
  let t := (UInt32.ofNat (index + 1)).toFloat32 / count.toFloat32
  { width := first.width + (last.width - first.width) * t
    height := first.height + (last.height - first.height) * t
    pixelRatio := last.pixelRatio
    atMs := startMs + (UInt32.ofNat index).toFloat * spacingMs }

/-- A drag from one view to another: at least one change.  A time that is
undefined here comes from infinite operands and stands first. -/
def drag (first last : Viewport) (startMs : Float) (count : UInt32) (spacingMs : Float) :
    ScriptedResizes :=
  let count := max count 1
  sorted .first ((List.range count.toNat).map (dragEvent first last startMs count spacingMs))

def remaining (resizes : ScriptedResizes) : Nat :=
  resizes.events.length

/-- The next change, if its time has come. -/
def poll (nowMs : Float) (resizes : ScriptedResizes) : Option (ResizeEvent × ScriptedResizes) :=
  match resizes.events with
  | [] => none
  | event :: rest => if event.atMs ≤ nowMs then some (event, ⟨rest⟩) else none

theorem remaining_poll (nowMs : Float) (resizes rest : ScriptedResizes) (event : ResizeEvent)
    (due : resizes.poll nowMs = some (event, rest)) : rest.remaining < resizes.remaining := by
  unfold poll at due
  unfold remaining
  split at due
  · cases due
  · next listed =>
    split at due
    · cases due
      simp [listed]
    · cases due

instance : ResizeSource ScriptedResizes where
  poll := poll
  remaining := remaining
  remaining_poll := remaining_poll

end ScriptedResizes

end Starfield
