import Starfield.Proofs.Resize.Delivery

namespace Starfield

/-!
# Every settled change once

Changes and questions reach a debouncer in any order, and their times need not
agree on an order either.  Whatever has come before, a question is answered with
a change exactly if it is the last one, it has not been the answer since it came
and its quiet time is over.  Every change is accounted for: it was an answer, it
was dropped for a later one, or it is still held back.
-/

/-- What can be done with a debouncer. -/
inductive DebouncerCall
  | push (event : ResizeEvent)
  | poll (nowMs : Float)

namespace DebouncerCall

def pushed? : DebouncerCall -> Option ResizeEvent
  | .push event => some event
  | .poll _ => none

/-- The changes among some calls. -/
def pushed (calls : List DebouncerCall) : List ResizeEvent :=
  calls.filterMap pushed?

end DebouncerCall

namespace ResizeDebouncer

/-- The answer to a call, and the debouncer after it. -/
def call (debouncer : ResizeDebouncer) : DebouncerCall -> Option ResizeEvent × ResizeDebouncer
  | .push event => (none, debouncer.push event)
  | .poll nowMs => debouncer.poll nowMs

/-- The debouncer after some calls. -/
def after (debouncer : ResizeDebouncer) (calls : List DebouncerCall) : ResizeDebouncer :=
  calls.foldl (fun debouncer call => (debouncer.call call).2) debouncer

/-- The changes that some calls are answered with. -/
def handedOut (debouncer : ResizeDebouncer) : List DebouncerCall -> List ResizeEvent
  | [] => []
  | call :: calls =>
      (debouncer.call call).1.toList ++ (debouncer.call call).2.handedOut calls

/-- The last change among some calls is `event`, and no later call was answered
with it. -/
def IsHeld (start : ResizeDebouncer) (calls : List DebouncerCall) (event : ResizeEvent) : Prop :=
  Exists fun earlier => Exists fun later => calls = earlier ++ .push event :: later ∧
    (forall other, .push other ∉ later) ∧
    event ∉ (start.after (earlier ++ [.push event])).handedOut later

variable {start : ResizeDebouncer} {calls : List DebouncerCall}

theorem after_append (start : ResizeDebouncer) (earlier later : List DebouncerCall) :
    start.after (earlier ++ later) = (start.after earlier).after later :=
  List.foldl_append

theorem after_concat (start : ResizeDebouncer) (calls : List DebouncerCall)
    (last : DebouncerCall) :
    start.after (calls ++ [last]) = ((start.after calls).call last).2 :=
  after_append start calls [last]

theorem handedOut_append (start : ResizeDebouncer) (earlier later : List DebouncerCall) :
    start.handedOut (earlier ++ later) =
      start.handedOut earlier ++ (start.after earlier).handedOut later := by
  induction earlier generalizing start with
  | nil => rfl
  | cons call earlier ih =>
      rw [List.cons_append, handedOut, ih, handedOut, List.append_assoc]
      rfl

theorem handedOut_concat (start : ResizeDebouncer) (calls : List DebouncerCall)
    (last : DebouncerCall) :
    start.handedOut (calls ++ [last]) =
      start.handedOut calls ++ ((start.after calls).call last).1.toList := by
  rw [handedOut_append, handedOut, handedOut, List.append_nil]

theorem not_isHeld_nil (event : ResizeEvent) : ¬start.IsHeld [] event := by
  rintro ⟨earlier, later, splits, -, -⟩
  exact List.append_ne_nil_of_right_ne_nil earlier (List.cons_ne_nil _ later) splits.symm

/-- A change takes the place of the one before it. -/
theorem isHeld_concat_push {last event : ResizeEvent} :
    start.IsHeld (calls ++ [.push last]) event ↔ event = last := by
  constructor
  · rintro ⟨earlier, later, splits, questions, -⟩
    rcases List.eq_nil_or_concat' later with rfl | ⟨front, final, rfl⟩
    · cases (List.append_inj' splits rfl).2
      rfl
    · rw [← List.cons_append, ← List.append_assoc] at splits
      cases (List.append_inj' splits rfl).2
      exact absurd (List.mem_append_right front (List.mem_singleton.mpr rfl)) (questions last)
  · rintro rfl
    exact ⟨calls, [], rfl, fun _ => List.not_mem_nil, List.not_mem_nil⟩

/-- A question leaves the last change held back unless it is the answer. -/
theorem isHeld_concat_poll {nowMs : Float} {event : ResizeEvent} :
    start.IsHeld (calls ++ [.poll nowMs]) event ↔
      start.IsHeld calls event ∧ ((start.after calls).poll nowMs).1 ≠ some event := by
  constructor
  · rintro ⟨earlier, later, splits, questions, kept⟩
    rcases List.eq_nil_or_concat' later with rfl | ⟨front, final, rfl⟩
    · cases (List.append_inj' splits rfl).2
    rw [← List.cons_append, ← List.append_assoc] at splits
    cases (List.append_inj' splits rfl).2
    cases (List.append_inj' splits rfl).1
    rw [handedOut_concat, ← after_append, List.append_assoc, List.singleton_append,
      List.mem_append, not_or] at kept
    refine ⟨⟨earlier, front, rfl, fun other listed => questions other ?_, kept.1⟩, fun answer => ?_⟩
    · exact List.mem_append_left _ listed
    · exact kept.2 (Option.mem_toList.mpr answer)
  · rintro ⟨⟨earlier, later, rfl, questions, kept⟩, unanswered⟩
    refine ⟨earlier, later ++ [.poll nowMs], ?_, fun other listed => ?_, ?_⟩
    · rw [← List.cons_append, List.append_assoc]
    · rcases List.mem_append.mp listed with early | last
      · exact questions other early
      · cases List.mem_singleton.mp last
    · rw [handedOut_concat, ← after_append, List.append_assoc, List.singleton_append,
        List.mem_append, not_or]
      exact ⟨kept, fun answer => unanswered (Option.mem_toList.mp answer)⟩

/-- What is true of a debouncer after some calls. -/
structure Accounts (start debouncer : ResizeDebouncer) (calls : List DebouncerCall) : Prop where
  quietMs : debouncer.quietMs = start.quietMs
  pending : forall event, debouncer.pending = some event ↔ start.IsHeld calls event
  deadlineMs : forall event, debouncer.pending = some event ->
    debouncer.deadlineMs = event.atMs + start.quietMs
  inOrder : (start.handedOut calls ++ debouncer.pending.toList).Sublist
    (DebouncerCall.pushed calls)
  counted : (DebouncerCall.pushed calls).length = (start.handedOut calls).length +
    debouncer.coalesced + if debouncer.isPending then 1 else 0

theorem accounts_nil (empty : start.pending = none) (unused : start.coalesced = 0) :
    start.Accounts start [] where
  quietMs := rfl
  pending event := by
    rw [empty]
    exact ⟨nofun, fun held => absurd held (not_isHeld_nil event)⟩
  deadlineMs event held := nomatch empty.symm.trans held
  inOrder := by
    rw [empty]
    exact List.Sublist.refl _
  counted := by
    rw [unused, isPending, empty]
    rfl

/-- A change that is handed in keeps the account. -/
theorem Accounts.push (kept : start.Accounts (start.after calls) calls) (event : ResizeEvent) :
    start.Accounts (start.after (calls ++ [.push event])) (calls ++ [.push event]) := by
  have pushed : DebouncerCall.pushed (calls ++ [.push event]) =
      DebouncerCall.pushed calls ++ [event] := List.filterMap_append
  have answers : start.handedOut (calls ++ [.push event]) = start.handedOut calls :=
    (handedOut_concat start calls _).trans (List.append_nil _)
  rw [after_concat]
  constructor
  case quietMs => exact kept.quietMs
  case pending =>
    intro other
    rw [isHeld_concat_push, eq_comm (a := other)]
    exact Option.some_inj
  case deadlineMs =>
    rintro other ⟨⟩
    rw [← kept.quietMs]
    rfl
  case inOrder =>
    rw [answers, pushed]
    exact ((List.sublist_append_left _ _).trans kept.inOrder).append_right [event]
  case counted =>
    rw [answers, pushed, List.length_append, kept.counted, List.length_singleton]
    change _ = (start.handedOut calls).length + ((start.after calls).coalesced +
      if (start.after calls).isPending then 1 else 0) + 1
    rw [Nat.add_assoc (start.handedOut calls).length]

/-- A question keeps the account, whether a change is the answer or not. -/
theorem Accounts.poll (kept : start.Accounts (start.after calls) calls) (nowMs : Float) :
    start.Accounts (start.after (calls ++ [.poll nowMs])) (calls ++ [.poll nowMs]) := by
  have pushed : DebouncerCall.pushed (calls ++ [.poll nowMs]) = DebouncerCall.pushed calls :=
    List.filterMap_append.trans (List.append_nil _)
  rcases poll_cases nowMs (start.after calls) with ⟨event, held, -, polled⟩ | ⟨-, polled⟩
  case inl =>
    have answers : start.handedOut (calls ++ [.poll nowMs]) = start.handedOut calls ++ [event] := by
      rw [handedOut_concat, call, polled, Option.toList_some]
    rw [after_concat, call, polled]
    constructor
    case quietMs => exact kept.quietMs
    case pending =>
      intro other
      rw [isHeld_concat_poll, polled]
      refine ⟨nofun, fun ⟨stillHeld, unanswered⟩ => ?_⟩
      exact absurd (held.symm.trans ((kept.pending other).mpr stillHeld)) unanswered
    case deadlineMs => exact nofun
    case inOrder =>
      have before := kept.inOrder
      rw [held, Option.toList_some] at before
      rw [answers, pushed, Option.toList_none, List.append_nil]
      exact before
    case counted =>
      rw [answers, pushed, kept.counted, isPending, held, List.length_append]
      exact Nat.add_right_comm _ _ _
  case inr =>
    have answers : start.handedOut (calls ++ [.poll nowMs]) = start.handedOut calls := by
      rw [handedOut_concat, call, polled, Option.toList_none, List.append_nil]
    rw [after_concat, call, polled]
    constructor
    case quietMs => exact kept.quietMs
    case pending =>
      intro other
      rw [isHeld_concat_poll, polled, ← kept.pending other]
      exact ⟨fun held => ⟨held, nofun⟩, And.left⟩
    case deadlineMs => exact kept.deadlineMs
    case inOrder =>
      rw [answers, pushed]
      exact kept.inOrder
    case counted =>
      rw [answers, pushed]
      exact kept.counted

/-- Every sequence of calls keeps the account, by induction on its last call. -/
theorem accounts_after (start : ResizeDebouncer) (empty : start.pending = none)
    (unused : start.coalesced = 0) (calls : List DebouncerCall) :
    start.Accounts (start.after calls) calls := by
  induction calls using List.reverseRecOn with
  | nil => exact accounts_nil empty unused
  | append_singleton calls last ih =>
      cases last with
      | push event => exact ih.push event
      | poll nowMs => exact ih.poll nowMs

/-- With every quiet time and after any calls, a question is answered with a
change exactly if that is the last one, it was no answer since it came and its
quiet time is over.  The answers are changes in the order they came in, none of
them twice, and every change was an answer, was dropped or is held back. -/
theorem delivers_each_settled_once (quietMs : Float) (calls : List DebouncerCall) :
    (forall nowMs event, (((ofQuietTime quietMs).after calls).poll nowMs).1 = some event ↔
      (ofQuietTime quietMs).IsHeld calls event ∧
        event.atMs + Double.larger quietMs 0 ≤ nowMs) ∧
    ((ofQuietTime quietMs).handedOut calls).Sublist (DebouncerCall.pushed calls) ∧
    (DebouncerCall.pushed calls).length = ((ofQuietTime quietMs).handedOut calls).length +
      ((ofQuietTime quietMs).after calls).coalesced +
      if ((ofQuietTime quietMs).after calls).isPending then 1 else 0 := by
  have kept := accounts_after (ofQuietTime quietMs) rfl rfl calls
  refine ⟨fun nowMs event => ?_, (List.sublist_append_left _ _).trans kept.inOrder, kept.counted⟩
  rw [← kept.pending event]
  rcases poll_cases nowMs ((ofQuietTime quietMs).after calls) with
    ⟨other, held, due, polled⟩ | ⟨notDue, polled⟩
  case inl =>
    rw [polled, held]
    rw [kept.deadlineMs other held] at due
    refine ⟨?_, And.left⟩
    rintro ⟨⟩
    exact ⟨rfl, due⟩
  case inr =>
    rw [polled]
    refine ⟨nofun, fun ⟨held, due⟩ => ?_⟩
    rcases notDue with gone | early
    · cases gone.symm.trans held
    · rw [kept.deadlineMs event held] at early
      exact absurd due early

end ResizeDebouncer

end Starfield
