import Mathlib

namespace Starfield

/-!
# Outcomes of steps

A sequence of steps has a result exactly if each of its steps has one.  These
lemmas take such a sequence apart.
-/

namespace Outcome

variable {ε α β : Type}

theorem bind_eq_ok {step : Except ε α} {next : α -> Except ε β} {result : β} :
    step >>= next = .ok result ↔ Exists fun value => step = .ok value ∧ next value = .ok result := by
  cases step with
  | error refusal =>
      constructor
      · rintro ⟨⟩
      · rintro ⟨value, ⟨⟩, -⟩
  | ok value =>
      constructor
      · exact fun arrived => ⟨value, rfl, arrived⟩
      · rintro ⟨_, ⟨⟩, arrived⟩
        exact arrived

/-- Two steps that have results have one together. -/
theorem bind_ok {step : Except ε α} {next : α -> Except ε β}
    (first : Exists fun value => step = .ok value)
    (second : forall value, Exists fun result => next value = .ok result) :
    Exists fun result => step >>= next = .ok result := by
  rcases first with ⟨value, arrived⟩
  rcases second value with ⟨result, arrivedNext⟩
  exact ⟨result, bind_eq_ok.mpr ⟨value, arrived, arrivedNext⟩⟩

theorem ok_bind (value : α) (next : α -> Except ε β) : .ok value >>= next = next value :=
  rfl

theorem toOption_eq_some {step : Except ε α} {value : α} :
    step.toOption = some value ↔ step = .ok value := by
  cases step with
  | error refusal => exact iff_of_false nofun nofun
  | ok found => exact ⟨fun same => by cases same; rfl, fun same => by cases same; rfl⟩

/-- Two checks pass if both of them do. -/
theorem then_eq_ok {first second : Except ε Unit} :
    (first >>= fun _ => second) = .ok () ↔ first = .ok () ∧ second = .ok () := by
  rw [bind_eq_ok]
  exact ⟨fun ⟨(), passed, others⟩ => ⟨passed, others⟩, fun both => ⟨(), both⟩⟩

/-- A check that refuses on a condition passes without it. -/
theorem refusal_eq_ok {refused : Bool} {refusal : ε} :
    (if refused = true then throw refusal else pure () : Except ε Unit) = .ok () ↔
      refused = false := by
  cases refused
  · exact iff_of_true rfl rfl
  · exact iff_of_false nofun nofun

theorem forM_eq_ok {check : α -> Except ε Unit} (items : List α) :
    items.forM check = .ok () ↔ forall item, item ∈ items -> check item = .ok () := by
  induction items with
  | nil => exact iff_of_true rfl nofun
  | cons item items ih =>
      change (check item >>= fun _ => items.forM check) = .ok () ↔ _
      rw [then_eq_ok, ih, List.forall_mem_cons]

theorem option_forM_eq_ok {check : α -> Except ε Unit} (item? : Option α) :
    item?.forM check = .ok () ↔ forall item, item ∈ item? -> check item = .ok () := by
  cases item? with
  | none => exact iff_of_true rfl nofun
  | some item => exact ⟨fun passed _ same => by cases same; exact passed, fun all => all item rfl⟩

/-- A step for every item of a list has results for all of them. -/
theorem mapM_ok {step : α -> Except ε β} (items : List α)
    (results : forall item, item ∈ items -> Exists fun result => step item = .ok result) :
    Exists fun all => items.mapM step = .ok all := by
  induction items with
  | nil => exact ⟨[], rfl⟩
  | cons item items ih =>
      rcases results item List.mem_cons_self with ⟨first, arrived⟩
      rcases ih fun other inside => results other (List.mem_cons_of_mem item inside) with
        ⟨rest, arrivedRest⟩
      exact ⟨first :: rest, by rw [List.mapM_cons, arrived, arrivedRest]; rfl⟩

/-- The results of a step for every item of a list stand in the order of the
items. -/
theorem forall₂_of_mapM_eq_ok {step : α -> Except ε β} {items : List α} {all : List β}
    (arrived : items.mapM step = .ok all) :
    List.Forall₂ (fun item result => step item = .ok result) items all := by
  induction items generalizing all with
  | nil =>
      cases arrived
      exact .nil
  | cons item items ih =>
      rw [List.mapM_cons] at arrived
      rcases bind_eq_ok.mp arrived with ⟨first, stepped, others⟩
      rcases bind_eq_ok.mp others with ⟨rest, steppedRest, made⟩
      cases made
      exact .cons stepped (ih steppedRest)

/-- Steps that turn related items into related results do so with lists. -/
theorem forall₂_of_mapM {γ δ : Type} {step : α -> Except ε γ} {otherStep : β -> Except ε δ}
    {related : α -> β -> Prop} {results : γ -> δ -> Prop}
    (keeps : forall item other result otherResult, related item other -> step item = .ok result ->
      otherStep other = .ok otherResult -> results result otherResult)
    {items : List α} {others : List β} (listed : List.Forall₂ related items others) {all : List γ}
    {otherAll : List δ} (arrived : items.mapM step = .ok all)
    (otherArrived : others.mapM otherStep = .ok otherAll) : List.Forall₂ results all otherAll := by
  induction listed generalizing all otherAll with
  | nil =>
      cases arrived
      cases otherArrived
      exact .nil
  | cons first rest ih =>
      rw [List.mapM_cons] at arrived otherArrived
      rcases bind_eq_ok.mp arrived with ⟨result, stepped, more⟩
      rcases bind_eq_ok.mp more with ⟨remaining, steppedRest, made⟩
      rcases bind_eq_ok.mp otherArrived with ⟨otherResult, otherStepped, otherMore⟩
      rcases bind_eq_ok.mp otherMore with ⟨otherRemaining, otherSteppedRest, otherMade⟩
      cases made
      cases otherMade
      exact .cons (keeps _ _ _ _ first stepped otherStepped) (ih steppedRest otherSteppedRest)

/-- Steps that all have results lead through a list. -/
theorem foldlM_ok {step : β -> α -> Except ε β}
    (results : forall state item, Exists fun next => step state item = .ok next) (items : List α)
    (state : β) : Exists fun last => items.foldlM step state = .ok last := by
  induction items generalizing state with
  | nil => exact ⟨state, rfl⟩
  | cons item items ih =>
      rcases results state item with ⟨next, stepped⟩
      rcases ih next with ⟨last, reached⟩
      exact ⟨last, by rw [List.foldlM_cons, stepped]; exact reached⟩

end Outcome

end Starfield
