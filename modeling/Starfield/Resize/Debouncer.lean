import Starfield.Resize.Event

namespace Starfield

/-!
# Debouncing

A burst of changes counts once.  The latest change is held back until the view
has rested for a quiet time; an earlier one that was still held is dropped.
-/

structure ResizeDebouncer where
  quietMs : Float
  pending : Option ResizeEvent := none
  /-- When the change that is held back becomes due. -/
  deadlineMs : Float := 0
  /-- How many changes were dropped. -/
  coalesced : Nat := 0
deriving Repr, Inhabited

namespace ResizeDebouncer

/-- A debouncer with a quiet time that is not negative. -/
def ofQuietTime (quietMs : Float) : ResizeDebouncer where
  quietMs := Double.larger quietMs 0

def isPending (debouncer : ResizeDebouncer) : Bool :=
  debouncer.pending.isSome

/-- Hold a change back in place of the one before it. -/
def push (event : ResizeEvent) (debouncer : ResizeDebouncer) : ResizeDebouncer :=
  { debouncer with
    pending := some event
    deadlineMs := event.atMs + debouncer.quietMs
    coalesced := debouncer.coalesced + if debouncer.isPending then 1 else 0 }

/-- The change that was held back, once it is due. -/
def poll (nowMs : Float) (debouncer : ResizeDebouncer) : Option ResizeEvent × ResizeDebouncer :=
  match debouncer.pending with
  | some event =>
    if debouncer.deadlineMs ≤ nowMs then (some event, { debouncer with pending := none })
    else (none, debouncer)
  | none => (none, debouncer)

end ResizeDebouncer

end Starfield
