import Starfield.Proofs.Number.Order
import Starfield.Resize.Debouncer
import Starfield.Resize.Script

namespace Starfield

/-!
# Delivery of changes

A script delivers its changes in the order of their times, and at any time all
of those whose time has come.  A debouncer that is handed changes holds the
last of them.
-/

/-- The same items in the order of their keys.  Those that stood in that order
already are not disturbed. -/
structure IsStableSort {α : Type} (key : α -> ℤ) (items sorted : List α) : Prop where
  perm : sorted.Perm items
  inOrder : sorted.Pairwise fun first second => key first ≤ key second
  stable : forall kept : List α, kept.Sublist items ->
    (kept.Pairwise fun first second => key first ≤ key second) -> kept.Sublist sorted

theorem isStableSort_mergeSort {α : Type} (key : α -> ℤ) (items : List α) :
    IsStableSort key items (items.mergeSort fun first second => key first ≤ key second) := by
  have trans (first second third : α) (one : decide (key first ≤ key second) = true)
      (other : decide (key second ≤ key third) = true) : decide (key first ≤ key third) = true := by
    rw [decide_eq_true_iff] at *
    exact one.trans other
  have total (first second : α) :
      (decide (key first ≤ key second) || decide (key second ≤ key first)) = true := by
    rw [Bool.or_eq_true, decide_eq_true_iff, decide_eq_true_iff]
    exact le_total _ _
  refine ⟨List.mergeSort_perm items _, ?_, fun kept listed inOrder => ?_⟩
  · exact (List.pairwise_mergeSort trans total items).imp of_decide_eq_true
  · exact List.sublist_mergeSort trans total (inOrder.imp decide_eq_true) listed

namespace ScriptedResizes

/-- A script stands in the total order of its times. -/
theorem isStableSort_sorted (place : UndefinedPlace) (events : List ResizeEvent) :
    IsStableSort (fun event => Double.orderKey place event.atMs) events
      (sorted place events).events :=
  isStableSort_mergeSort _ events

/-- The changes that are due are those before the first one that is not. -/
theorem drain_eq (nowMs : Float) (events : List ResizeEvent) :
    ResizeSource.drain nowMs (⟨events⟩ : ScriptedResizes) =
      (events.takeWhile (·.atMs ≤ nowMs), ⟨events.dropWhile (·.atMs ≤ nowMs)⟩) := by
  induction events with
  | nil =>
      rw [ResizeSource.drain]
      rfl
  | cons event rest ih =>
      by_cases due : event.atMs ≤ nowMs
      · have polled : ResizeSource.poll nowMs (⟨event :: rest⟩ : ScriptedResizes) =
            some (event, ⟨rest⟩) := if_pos due
        simp only [List.takeWhile_cons, List.dropWhile_cons, due, decide_true, if_true]
        rw [ResizeSource.drain]
        split
        · next nothing => cases polled.symm.trans nothing
        · next other left found =>
            cases polled.symm.trans found
            rw [ih]
      · have polled : ResizeSource.poll nowMs (⟨event :: rest⟩ : ScriptedResizes) = none :=
          if_neg due
        simp only [List.takeWhile_cons, List.dropWhile_cons, due, decide_false,
          Bool.false_eq_true, if_false]
        rw [ResizeSource.drain]
        split
        · rfl
        · next other left found => cases polled.symm.trans found

/-- Draining splits the script, and what is left is not due. -/
theorem drain_spec (nowMs : Float) (script : ScriptedResizes) :
    Exists fun due => Exists fun left => ResizeSource.drain nowMs script = (due, ⟨left⟩) ∧
      due ++ left = script.events ∧ forall next, next ∈ left.head? -> ¬next.atMs ≤ nowMs := by
  refine ⟨_, _, drain_eq nowMs script.events, List.takeWhile_append_dropWhile, ?_⟩
  intro next first
  have early := List.head?_dropWhile_not (fun event : ResizeEvent => decide (event.atMs ≤ nowMs))
    script.events
  rw [first] at early
  exact of_decide_eq_false early

theorem mem_sorted {place : UndefinedPlace} {event : ResizeEvent} {events : List ResizeEvent} :
    event ∈ (sorted place events).events ↔ event ∈ events :=
  (isStableSort_sorted place events).perm.mem_iff

/-- Changes whose times are not undefined are delivered in the order of their
times. -/
theorem pairwise_sorted {place : UndefinedPlace} {events : List ResizeEvent}
    (defined : forall event, event ∈ events -> IsDefined event.atMs) :
    (sorted place events).events.Pairwise fun earlier later => earlier.atMs ≤ later.atMs := by
  refine (isStableSort_sorted place events).inOrder.imp_of_mem
    fun {earlier later} listed otherListed inOrder => ?_
  exact Double.le_of_orderKey_le (defined earlier (mem_sorted.mp listed))
    (defined later (mem_sorted.mp otherListed)) inOrder

theorem mem_ofEvents {event : ResizeEvent} {events : List ResizeEvent} :
    event ∈ (ofEvents events).events ↔ event ∈ events :=
  mem_sorted

theorem pairwise_ofEvents {events : List ResizeEvent}
    (defined : forall event, event ∈ events -> IsDefined event.atMs) :
    (ofEvents events).events.Pairwise fun earlier later => earlier.atMs ≤ later.atMs :=
  pairwise_sorted defined

end ScriptedResizes

namespace ResizeDebouncer

/-- A debouncer holds the last of some changes back, until that one has
rested. -/
structure Holds (debouncer : ResizeDebouncer) (events : List ResizeEvent) : Prop where
  pending : debouncer.pending = events.getLast?
  deadlineMs : forall event, event ∈ events.getLast? ->
    debouncer.deadlineMs = event.atMs + debouncer.quietMs

variable {debouncer : ResizeDebouncer} {events : List ResizeEvent}

theorem holds_push (debouncer : ResizeDebouncer) (events : List ResizeEvent)
    (event : ResizeEvent) : (debouncer.push event).Holds (events ++ [event]) where
  pending := List.getLast?_concat.symm
  deadlineMs last isLast := by
    rw [List.getLast?_concat] at isLast
    cases isLast
    rfl

/-- Hand changes to a debouncer in order. -/
def pushAll (debouncer : ResizeDebouncer) (events : List ResizeEvent) : ResizeDebouncer :=
  events.foldl (fun debouncer event => debouncer.push event) debouncer

theorem quietMs_pushAll (debouncer : ResizeDebouncer) (events : List ResizeEvent) :
    (debouncer.pushAll events).quietMs = debouncer.quietMs := by
  induction events generalizing debouncer with
  | nil => rfl
  | cons event events ih => exact ih _

theorem Holds.pushAll (held : debouncer.Holds events) (later : List ResizeEvent) :
    (debouncer.pushAll later).Holds (events ++ later) := by
  induction later generalizing debouncer events with
  | nil => rwa [List.append_nil]
  | cons event later ih =>
      have all := ih (holds_push debouncer events event)
      rwa [List.append_assoc] at all

/-- A poll hands out the change that is held back once its deadline is
reached, and leaves everything alone else. -/
theorem poll_cases (nowMs : Float) (debouncer : ResizeDebouncer) :
    (Exists fun event => debouncer.pending = some event ∧ debouncer.deadlineMs ≤ nowMs ∧
      debouncer.poll nowMs = (some event, { debouncer with pending := none })) ∨
    ((debouncer.pending = none ∨ ¬debouncer.deadlineMs ≤ nowMs) ∧
      debouncer.poll nowMs = (none, debouncer)) := by
  unfold poll
  cases held : debouncer.pending with
  | none => exact Or.inr ⟨Or.inl rfl, rfl⟩
  | some event =>
      by_cases due : debouncer.deadlineMs ≤ nowMs
      · exact Or.inl ⟨event, rfl, due, if_pos due⟩
      · exact Or.inr ⟨Or.inr due, if_neg due⟩

end ResizeDebouncer

end Starfield
