import Starfield.Proofs.Particle.History
import Starfield.Proofs.Random.Related

namespace Starfield

open Sampler (Related)

/-!
# Independence of the history

A layout takes words from the generator only to make particles, and how many it
takes does not depend on the view: the view scales what was drawn after the
drawing.  Ticks take none.  So the place in the stream after a history is a
function of the seed and of the number of layouts, and a layout makes the same
particles whatever the views before it were and however the particles moved.
-/

/-- Stars of one layer are drawn alike for all views. -/
theorem Star.related_sample (settings : FieldSettings) (view other : Viewport) (index : ℕ)
    (layer : StarLayer) : Related (fun _ _ => True) (sample settings view index layer)
      (sample settings other index layer) := by
  refine .bind_same _ fun color => .bind_same _ fun x => .bind_same _ fun y => ?_
  refine .bind_same _ fun size => .bind_same _ fun baseAlpha => ?_
  refine .bind_same _ fun velocityX => .bind_same _ fun velocityY => ?_
  exact .bind_same _ fun glow => .pure trivial

/-- Stars of layers with equal counts are related if single stars are. -/
theorem Star.related_layers {relation : Star Float32 -> Star Float32 -> Prop}
    {settings otherSettings : FieldSettings} {view otherView : Viewport}
    {layers others : List StarLayer} (each : List.Forall₂ (fun layer otherLayer =>
      layer.count = otherLayer.count ∧ forall index, Related relation
        (sample settings view index layer) (sample otherSettings otherView index otherLayer))
      layers others)
    (index : ℕ) : Related (List.Forall₂ relation) (sampleLayers settings view index layers)
      (sampleLayers otherSettings otherView index others) := by
  induction each generalizing index with
  | nil => exact .pure .nil
  | cons first _ ih =>
      unfold sampleLayers
      rw [← first.1]
      refine ((first.2 index).replicate _).bind fun stars otherStars same => ?_
      exact (ih (index + 1)).bind fun _ _ later => .pure (List.rel_append same later)

/-- The number of blobs is drawn, and it is drawn alike too. -/
theorem Nebula.related_sample (settings : FieldSettings) (view other : Viewport) :
    Related (fun _ _ => True) (sample settings view) (sample settings other) := by
  refine .bind_same _ fun x => .bind_same _ fun y => .bind_same _ fun alpha => ?_
  refine .bind_same _ fun velocityX => .bind_same _ fun velocityY => ?_
  exact .bind_same _ fun count => .bind_same _ fun blobs => .pure trivial

theorem Population.related_sample (settings : FieldSettings) (view other : Viewport) :
    Related (fun _ _ => True) (sample settings view) (sample settings other) := by
  refine (Star.related_layers (List.forall₂_same.mpr fun layer _ => ⟨rfl, fun index =>
    Star.related_sample settings view other index layer⟩) 0).bind fun _ _ _ => ?_
  exact ((Nebula.related_sample settings view other).replicate _).bind fun _ _ _ => .pure trivial

/-- The generator behind a layout, for whatever view. -/
def Population.generatorAfter (settings : FieldSettings) (g : Generator) : Generator :=
  match sample settings .smallest g with
  | .ok (_, next) => next
  | .error _ => g

theorem Population.generatorAfter_eq {settings : FieldSettings} {view : Viewport}
    {g next : Generator} {population : Population Float Float32}
    (drawn : (sample settings view).run g = .ok (population, next)) :
    next = generatorAfter settings g := by
  unfold generatorAfter
  rcases related_sample settings view .smallest g with
    ⟨_, _, moved, same, smallest, -⟩ | ⟨fault, failed, -⟩
  · rw [smallest]
    cases same.symm.trans drawn
    rfl
  · cases failed.symm.trans drawn

/-- The number of layouts in a history. -/
def layouts : List FieldCall -> ℕ
  | [] => 0
  | .resize _ :: calls => layouts calls + 1
  | .tick _ :: calls => layouts calls

namespace ParticleField

/-- Layouts from one place in the stream end at one place if the samplers take
the same words, and make related particles. -/
theorem resize_related {relation : Population Float Float32 -> Population Float Float32 -> Prop}
    {field other : ParticleField} (accepted : field.settings.Accepted)
    (otherAccepted : other.settings.Accepted) (together : field.generator = other.generator)
    {view : Viewport} (related : Related relation (Population.sample field.settings view)
      (Population.sample other.settings view)) :
    Exists fun population => Exists fun otherPopulation => Exists fun generator =>
      relation population otherPopulation ∧
      field.resize view = .ok ⟨field.settings, generator, view, population, field.generation + 1⟩ ∧
      other.resize view =
        .ok ⟨other.settings, generator, view, otherPopulation, other.generation + 1⟩ := by
  rcases resize_spec accepted view with ⟨population, moved, drawn, -, laidOut⟩
  rcases resize_spec otherAccepted view with ⟨otherPopulation, otherMoved, otherDrawn, -, otherLaidOut⟩
  rw [← together] at otherDrawn
  rcases related field.generator with ⟨_, _, _, ran, otherRan, holds⟩ | ⟨fault, failed, -⟩
  · cases ran.symm.trans drawn
    cases otherRan.symm.trans otherDrawn
    exact ⟨_, _, _, holds, laidOut, otherLaidOut⟩
  · cases failed.symm.trans drawn

/-- Two fields stay related over some calls if each of the calls keeps them so. -/
theorem run_related {relation : ParticleField -> ParticleField -> Prop} {calls : List FieldCall}
    (each : ∀ call ∈ calls, forall field other, relation field other ->
      Exists fun next => Exists fun otherNext => field.call call = .ok next ∧
        other.call call = .ok otherNext ∧ relation next otherNext)
    {field other : ParticleField} (before : relation field other) :
    Exists fun last => Exists fun otherLast => field.run calls = .ok last ∧
      other.run calls = .ok otherLast ∧ relation last otherLast := by
  induction calls generalizing field other with
  | nil => exact ⟨field, other, rfl, rfl, before⟩
  | cons call calls ih =>
      rw [List.forall_mem_cons] at each
      rcases each.1 field other before with ⟨next, otherNext, called, otherCalled, after⟩
      rw [run_cons, run_cons, called, otherCalled]
      exact ih each.2 after

/-- All that a layout looks at: the settings and the place in the stream, with
the number of the generation. -/
structure LaidOutTimes (settings : FieldSettings) (start : Generator) (count : ℕ)
    (field : ParticleField) : Prop where
  kept : field.settings = settings
  placed : field.generator = (Population.generatorAfter settings)^[count] start
  counted : field.generation = count

variable {settings : FieldSettings} {start : Generator} {count : ℕ} {field : ParticleField}

theorem LaidOutTimes.resize (accepted : settings.Accepted)
    (before : LaidOutTimes settings start count field) {view : Viewport} {next : ParticleField}
    (laidOut : field.resize view = .ok next) : LaidOutTimes settings start (count + 1) next := by
  rcases before with ⟨rfl, placed, counted⟩
  rcases resize_spec accepted view with ⟨population, moved, drawn, -, spec⟩
  cases laidOut.symm.trans spec
  refine ⟨rfl, ?_, congrArg (· + 1) counted⟩
  rw [Function.iterate_succ_apply', ← placed]
  exact Population.generatorAfter_eq drawn

theorem LaidOutTimes.tick (accepted : settings.Accepted)
    (before : LaidOutTimes settings start count field) {timeMs : Float} {next : ParticleField}
    (ticked : field.call (.tick timeMs) = .ok next) : LaidOutTimes settings start count next := by
  rcases before with ⟨rfl, placed, counted⟩
  rcases tick_spec accepted timeMs with ⟨steps, frame, -, -, spec⟩
  cases ticked.symm.trans (call_tick spec)
  exact ⟨rfl, placed, counted⟩

theorem LaidOutTimes.run (accepted : settings.Accepted)
    (before : LaidOutTimes settings start count field) (calls : List FieldCall) :
    Exists fun last => field.run calls = .ok last ∧
      LaidOutTimes settings start (count + layouts calls) last := by
  induction calls generalizing field count with
  | nil => exact ⟨field, rfl, before⟩
  | cons call calls ih =>
      rcases call_ok (before.kept ▸ accepted) call with ⟨next, called, -⟩
      rw [run_cons, called, Outcome.ok_bind]
      cases call with
      | resize view =>
          rcases ih (before.resize accepted called) with ⟨last, reached, after⟩
          rw [Nat.add_assoc, Nat.add_comm 1] at after
          exact ⟨last, reached, after⟩
      | tick timeMs => exact ih (before.tick accepted called)

/-- A layout makes one field of all fields that were laid out equally often. -/
theorem LaidOutTimes.resize_eq {other : ParticleField}
    (first : LaidOutTimes settings start count field)
    (second : LaidOutTimes settings start count other) (view : Viewport) :
    field.resize view = other.resize view := by
  unfold ParticleField.resize
  rw [first.kept, second.kept, first.placed, second.placed, first.counted, second.counted]

/-- Two histories with equally many layouts, of which the last one comes at the
end and is for the same view, lead to the same field: particles, generator
and the number of layouts. -/
theorem run_eq_of_layouts_eq {empty : ParticleField} (configured : configure settings = .ok empty)
    (first second : List FieldCall) (same : layouts first = layouts second) (view : Viewport) :
    Exists fun field => empty.run (first ++ [.resize view]) = .ok field ∧
      empty.run (second ++ [.resize view]) = .ok field ∧
      field.generation = layouts first + 1 := by
  rcases configure_eq_ok.mp configured with ⟨accepted, rfl⟩
  have fresh : LaidOutTimes settings (.ofSeed settings.seed) 0 (blank settings) :=
    ⟨rfl, rfl, rfl⟩
  rcases fresh.run accepted first with ⟨one, reached, afterFirst⟩
  rcases fresh.run accepted second with ⟨two, otherReached, afterSecond⟩
  rw [← same] at afterSecond
  rcases resize_spec (afterFirst.kept ▸ accepted) view with ⟨population, moved, -, -, laidOut⟩
  rw [run_concat reached, run_concat otherReached]
  refine ⟨_, laidOut, (afterFirst.resize_eq afterSecond view).symm.trans laidOut, ?_⟩
  exact congrArg (· + 1) (afterFirst.counted.trans (Nat.zero_add _))

/-- Another view and ticks in between change nothing. -/
theorem run_eq_of_layouts_eq_default :
    configure {} = .ok (blank {}) ∧ Exists fun field =>
      run (blank {})
        ([.resize (.ofReadings 640 480 1), .tick 0, .tick 500] ++ [.resize .smallest]) = .ok field ∧
      run (blank {}) ([.resize .smallest] ++ [.resize .smallest]) = .ok field := by
  have configured : configure {} = .ok (blank {}) :=
    configure_eq_ok.mpr ⟨(FieldSettings.validate_eq_ok {}).mp rfl, rfl⟩
  rcases run_eq_of_layouts_eq configured [.resize (.ofReadings 640 480 1), .tick 0, .tick 500]
    [.resize .smallest] (by decide) .smallest with ⟨field, first, second, -⟩
  exact ⟨configured, field, first, second⟩

end ParticleField

end Starfield
