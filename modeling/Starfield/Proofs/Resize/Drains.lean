import Starfield.Proofs.Resize.Delivery

namespace Starfield

/-!
# Exact delivery

A script stands in the total order of its times, but whether a change is due is
a matter of the comparison, and a drain stops at the first change that is not.
As long as no time is undefined, the changes that are due stand in front: so a
drain finds exactly those, wherever the clock went before.
-/

/-- If an item passes a test only behind items that pass it, those that pass
stand in front. -/
theorem filter_eq_of_pairwise {α : Type} {test : α -> Bool} {items : List α}
    (inFront : items.Pairwise fun first second => test second = true -> test first = true) :
    items.filter test = items.takeWhile test ∧
      items.filter (fun item => !test item) = items.dropWhile test := by
  induction inFront with
  | nil => exact ⟨rfl, rfl⟩
  | @cons item items before _ ih =>
      cases passes : test item with
      | true =>
          have refused : ¬(!test item) = true := by rw [passes]; exact Bool.false_ne_true
          rw [List.filter_cons_of_pos passes, List.takeWhile_cons_of_pos passes,
            List.filter_cons_of_neg (p := fun item => !test item) refused,
            List.dropWhile_cons_of_pos passes]
          exact ⟨congrArg _ ih.1, ih.2⟩
      | false =>
          have fails : ¬test item = true := Bool.eq_false_iff.mp passes
          have others (other : α) (member : other ∈ item :: items) : ¬test other = true := by
            rcases List.mem_cons.mp member with rfl | behind
            · exact fails
            · exact fun passed => fails (before other behind passed)
          rw [List.takeWhile_cons_of_neg fails, List.dropWhile_cons_of_neg fails]
          refine ⟨List.filter_eq_nil_iff.mpr others, List.filter_eq_self.mpr fun other member => ?_⟩
          rw [Bool.not_eq_true', Bool.eq_false_iff]
          exact others other member

/-- Changes whose times are numbers in order. -/
abbrev InTimeOrder (events : List ResizeEvent) : Prop :=
  events.Pairwise fun earlier later => earlier.atMs ≤ later.atMs

/-- In order, whatever stands before a change that is due is due. -/
theorem InTimeOrder.due_before {events : List ResizeEvent} (inOrder : InTimeOrder events)
    (nowMs : Float) : events.Pairwise fun earlier later =>
      decide (later.atMs ≤ nowMs) = true -> decide (earlier.atMs ≤ nowMs) = true := by
  refine inOrder.imp fun {earlier later} ordered due => decide_eq_true ?_
  exact number_le_trans ordered (of_decide_eq_true due)

/-- What drains at some times deliver, one after the other, and what is left of
the source. -/
def ResizeSource.drainAll {ρ : Type} [ResizeSource ρ] (source : ρ) :
    (times : List Float) -> List (List ResizeEvent) × ρ
  | [] => ([], source)
  | nowMs :: times =>
    let (due, rest) := drain nowMs source
    let (others, last) := drainAll rest times
    (due :: others, last)

namespace ScriptedResizes

variable {script : ScriptedResizes}

theorem poll_eq_none {nowMs : Float}
    (late : forall event, event ∈ script.events -> ¬event.atMs ≤ nowMs) :
    script.poll nowMs = none := by
  unfold poll
  split
  · rfl
  · next event rest listed => exact if_neg (late event (listed ▸ List.mem_cons_self))

/-- A drain takes out of a script in order what is due, and ends because
nothing else is. -/
theorem drain_of_inOrder (inOrder : InTimeOrder script.events) (nowMs : Float) :
    Exists fun rest => ResizeSource.drain nowMs script =
        (script.events.filter (·.atMs ≤ nowMs), rest) ∧
      rest.events = script.events.filter (¬·.atMs ≤ nowMs) ∧ rest.poll nowMs = none := by
  have drained := drain_eq nowMs script.events
  rcases filter_eq_of_pairwise (inOrder.due_before nowMs) with ⟨due, left⟩
  rw [← due, ← left] at drained
  refine ⟨_, drained, by simp only [decide_not], poll_eq_none fun event member => ?_⟩
  have late := (List.mem_filter.mp member).2
  rwa [Bool.not_eq_true', decide_eq_false_iff_not] at late

/-- A drain at an endless time takes out everything whose time is a number. -/
theorem drain_endless (defined : forall event, event ∈ script.events -> IsDefined event.atMs) :
    ResizeSource.drain (Binary.infinity false) script = (script.events, ⟨[]⟩) := by
  have due (event : ResizeEvent) (member : event ∈ script.events) :
      decide (event.atMs ≤ Binary.infinity false) = true := by
    refine decide_eq_true ((le_iff _ _).mpr ⟨defined event member, rfl, ?_⟩)
    exact (le_abs_self _).trans (isValue_exact event.atMs).bounded
  have drained := drain_eq (Binary.infinity false) script.events
  rwa [List.takeWhile_eq_self_iff.mpr due, List.dropWhile_eq_nil_iff.mpr due] at drained

/-- Whatever the times, what drains deliver and what is left make up the script. -/
theorem drainAll_spec (script : ScriptedResizes) (times : List Float) :
    Exists fun delivered => Exists fun left =>
      ResizeSource.drainAll script times = (delivered, left) ∧
        delivered.flatten ++ left.events = script.events := by
  induction times generalizing script with
  | nil => exact ⟨[], script, rfl, rfl⟩
  | cons nowMs times ih =>
      rcases drain_spec nowMs script with ⟨due, rest, drained, whole, -⟩
      rcases ih ⟨rest⟩ with ⟨others, last, drainedRest, wholeRest⟩
      refine ⟨due :: others, last, ?_, ?_⟩
      · rw [ResizeSource.drainAll, drained]
        change (due :: (ResizeSource.drainAll _ times).1, (ResizeSource.drainAll _ times).2) = _
        rw [drainedRest]
      · rw [List.flatten_cons, List.append_assoc, wholeRest, whole]

/-- Changes whose times are numbers are put in order, minus zero before zero and
changes of one time as they came in.  However the clock runs from drain to drain,
what was delivered is then always a beginning of that, a drain delivers exactly
those of the others that are due and ends, and the count of what remains is
right. -/
theorem drains_deliver_exactly {events : List ResizeEvent}
    (defined : forall event, event ∈ events -> IsDefined event.atMs) :
    IsStableSort (fun event => Double.orderKey .last event.atMs) events
      (ofEvents events).events ∧
    InTimeOrder (ofEvents events).events ∧
    forall (times : List Float) (nowMs : Float),
      Exists fun delivered => Exists fun left =>
        ResizeSource.drainAll (ofEvents events) times = (delivered, left) ∧
        delivered.flatten ++ left.events = (ofEvents events).events ∧
        left.remaining = events.length - delivered.flatten.length ∧
        Exists fun rest => ResizeSource.drain nowMs left =
            (left.events.filter (·.atMs ≤ nowMs), rest) ∧
          rest.events = left.events.filter (¬·.atMs ≤ nowMs) ∧ rest.poll nowMs = none := by
  have stable := isStableSort_sorted .last events
  have inOrder := pairwise_ofEvents defined
  refine ⟨stable, inOrder, fun times nowMs => ?_⟩
  rcases drainAll_spec (ofEvents events) times with ⟨delivered, left, drained, whole⟩
  have leftInOrder : InTimeOrder left.events :=
    inOrder.sublist (whole ▸ List.sublist_append_right delivered.flatten left.events)
  have counted : left.events.length = events.length - delivered.flatten.length := by
    rw [← stable.perm.length_eq, show (sorted .last events).events = _ from whole.symm,
      List.length_append, Nat.add_sub_cancel_left]
  exact ⟨delivered, left, drained, whole, counted, drain_of_inOrder leftInOrder nowMs⟩

/-- An endless time, zeros of both signs and a tie. -/
def scattered : List ResizeEvent :=
  [⟨1, 1, 1, Binary.infinity false⟩, ⟨2, 1, 1, 0⟩, ⟨3, 1, 1, -0⟩, ⟨4, 1, 1, 5⟩, ⟨5, 1, 1, 5⟩]

/-- A clock that shows no number once and then goes backwards. -/
theorem drains_deliver_exactly_scattered :
    (forall event, event ∈ scattered -> IsDefined event.atMs) ∧
      Exists fun delivered => Exists fun left =>
        ResizeSource.drainAll (ofEvents scattered) [5, Binary.undefined, -1] = (delivered, left) ∧
        delivered.flatten ++ left.events = (ofEvents scattered).events ∧
        left.remaining = scattered.length - delivered.flatten.length ∧
        Exists fun rest => ResizeSource.drain 0 left = (left.events.filter (·.atMs ≤ 0), rest) ∧
          rest.events = left.events.filter (¬·.atMs ≤ 0) ∧ rest.poll 0 = none := by
  have defined : forall event, event ∈ scattered -> IsDefined event.atMs := by
    intro event member
    simp only [scattered, List.mem_cons, List.not_mem_nil, or_false] at member
    rcases member with rfl | rfl | rfl | rfl | rfl <;> rfl
  exact ⟨defined, (drains_deliver_exactly defined).2.2 [5, Binary.undefined, -1] 0⟩

end ScriptedResizes

end Starfield
