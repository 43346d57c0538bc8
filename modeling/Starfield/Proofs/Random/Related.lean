import Mathlib.Data.List.Forall2
import Starfield.Random.Sampler

namespace Starfield

/-!
# Samplers that take the same words

Two samplers are related if from every generator they either fail alike or
leave the same generator behind, with related results.  This is about two runs
at once, so it can say that something does not matter for the stream: samplers
that differ only in what they do with the words are related.
-/

namespace Sampler

variable {α β γ δ : Type}

/-- From one generator two runs fail with one fault or come to one generator
with related results. -/
def Related (relation : α -> β -> Prop) (first : Sampler α) (second : Sampler β) : Prop :=
  forall g : Generator,
    (Exists fun x => Exists fun y => Exists fun next =>
      first g = .ok (x, next) ∧ second g = .ok (y, next) ∧ relation x y) ∨
    (Exists fun fault => first g = .error fault ∧ second g = .error fault)

namespace Related

variable {relation : α -> β -> Prop} {first : Sampler α} {second : Sampler β}

theorem refl (sample : Sampler α) : Related Eq sample sample := by
  intro g
  cases run : sample g with
  | error fault => exact Or.inr ⟨fault, rfl, rfl⟩
  | ok result => exact Or.inl ⟨result.1, result.1, result.2, rfl, rfl, rfl⟩

theorem pure {x : α} {y : β} (related : relation x y) :
    Related relation (Pure.pure x) (Pure.pure y) :=
  fun g => Or.inl ⟨x, y, g, rfl, rfl, related⟩

/-- Samplers that are equal up to a view of their results take the same words. -/
theorem of_map_eq {view : α -> γ} {first second : Sampler α} (same : view <$> first = view <$> second) :
    Related (fun x y => view x = view y) first second := by
  intro g
  have both : (first g).map (fun drawn => (view drawn.1, drawn.2)) =
      (second g).map (fun drawn => (view drawn.1, drawn.2)) := congrArg (·.run g) same
  cases ran : first g with
  | error fault =>
      cases otherRan : second g with
      | error otherFault =>
          rw [ran, otherRan] at both
          cases both
          exact Or.inr ⟨fault, rfl, rfl⟩
      | ok drawn =>
          rw [ran, otherRan] at both
          cases both
  | ok drawn =>
      cases otherRan : second g with
      | error fault =>
          rw [ran, otherRan] at both
          cases both
      | ok otherDrawn =>
          rw [ran, otherRan] at both
          have pairs := Prod.mk.inj (Except.ok.inj both)
          exact Or.inl ⟨drawn.1, otherDrawn.1, drawn.2, rfl, by rw [pairs.2], pairs.1⟩

theorem bind {results : γ -> δ -> Prop} {next : α -> Sampler γ} {other : β -> Sampler δ}
    (both : Related relation first second)
    (rest : forall x y, relation x y -> Related results (next x) (other y)) :
    Related results (first >>= next) (second >>= other) := by
  intro g
  change (Exists fun x => Exists fun y => Exists fun last =>
    (first g >>= fun drawn => next drawn.1 drawn.2) = .ok (x, last) ∧
      (second g >>= fun drawn => other drawn.1 drawn.2) = .ok (y, last) ∧ results x y) ∨
    Exists fun fault => (first g >>= fun drawn => next drawn.1 drawn.2) = .error fault ∧
      (second g >>= fun drawn => other drawn.1 drawn.2) = .error fault
  rcases both g with ⟨x, y, moved, ran, otherRan, related⟩ | ⟨fault, failed, otherFailed⟩
  · rw [ran, otherRan]
    exact rest x y related moved
  · rw [failed, otherFailed]
    exact Or.inr ⟨fault, rfl, rfl⟩

/-- Two samplers that begin alike are related if they are from there on. -/
theorem bind_same {results : γ -> δ -> Prop} (sample : Sampler α) {next : α -> Sampler γ}
    {other : α -> Sampler δ} (rest : forall x, Related results (next x) (other x)) :
    Related results (sample >>= next) (sample >>= other) := by
  refine (refl sample).bind ?_
  rintro x y rfl
  exact rest x

theorem throw (fault : Fault) : Related relation (MonadExcept.throw fault) (MonadExcept.throw fault) :=
  fun _ => Or.inr ⟨fault, rfl, rfl⟩

/-- Points of any two ranges take one word each. -/
theorem inRange (range other : Range) :
    Related (fun _ _ => True) (Sampler.inRange range) (Sampler.inRange other) :=
  bind_same _ fun _ => .pure trivial

/-- Of two lists of one length, elements at one index are chosen. -/
theorem choice {options : List α} {others : List β} (same : options.length = others.length) :
    Related (fun x y => Exists fun index : ℕ => options[index]? = some x ∧ others[index]? = some y)
      (Sampler.choice options) (Sampler.choice others) := by
  unfold Sampler.choice
  rw [← same]
  refine bind_same _ fun index => ?_
  by_cases inside : index < options.length
  · have found := List.getElem?_eq_getElem inside
    have otherFound := List.getElem?_eq_getElem (same ▸ inside)
    rw [found, otherFound]
    exact .pure ⟨index, found, otherFound⟩
  · have outside := Nat.not_lt.mp inside
    rw [List.getElem?_eq_none outside, List.getElem?_eq_none (same ▸ outside)]
    exact .throw .emptyChoice

theorem repeatOnto (both : Related relation first second) (times : ℕ) {done : Array α}
    {others : Array β} (start : List.Forall₂ relation done.toList others.toList) :
    Related (fun all each => List.Forall₂ relation all.toList each.toList)
      (Sampler.repeatOnto first done times) (Sampler.repeatOnto second others times) := by
  induction times generalizing done others with
  | zero => exact .pure start
  | succ times ih =>
      refine both.bind fun x y related => ih ?_
      rw [Array.toList_push, Array.toList_push]
      exact List.rel_append start (.cons related .nil)

/-- Repeating related samplers relates the results one by one. -/
theorem replicate (both : Related relation first second) (times : ℕ) :
    Related (List.Forall₂ relation) (Sampler.replicate times first)
      (Sampler.replicate times second) :=
  (both.repeatOnto times .nil).bind fun _ _ related => .pure related

end Related

end Sampler

end Starfield
