import Starfield.Proofs.Particle.HistoryIndependence

namespace Starfield

open Sampler (Related)

/-!
# What settings do to the stream

A layout draws the same words whatever the particles look like: a color is one
index into a palette, every other property is one fraction of a range, and a
glow is drawn even if it is not shown.  So the seed, the numbers of particles
and the length of the palette settle where a layout leaves the generator, and
also where the stars are, which layers they are of and which colors they have.
No other setting moves anything but itself.
-/

/-- All that the words of a layout depend on is equal in both settings. -/
structure FieldSettings.DrawsAlike (settings other : FieldSettings) : Prop where
  seed : settings.seed = other.seed
  layers : settings.layers.map (·.count) = other.layers.map (·.count)
  stars : settings.palette.stars.length = other.palette.stars.length
  nebulae : settings.nebula.count = other.nebula.count
  blobs : settings.nebula.blobs = other.nebula.blobs

/-- Stars at one place and of one layer, with colors that stand at one index of
two palettes. -/
structure Star.IsAlike (palette otherPalette : List Rgb) (star other : Star Float32) : Prop where
  position : star.position = other.position
  layer : star.layer = other.layer
  color : Exists fun index : ℕ =>
    palette[index]? = some star.color ∧ otherPalette[index]? = some other.color

/-- Stars one by one are alike, and nebulae have as many blobs. -/
structure Population.IsAlike (palette otherPalette : List Rgb)
    (population other : Population Float Float32) : Prop where
  stars : List.Forall₂ (Star.IsAlike palette otherPalette) population.stars other.stars
  nebulae : List.Forall₂ (fun nebula otherNebula => nebula.blobs.length = otherNebula.blobs.length)
    population.nebulae other.nebulae

/-- The star as it is where glows are not shown. -/
def Star.withoutGlow (star : Star Float32) : Star Float32 :=
  { star with glow := 0 }

def Population.withoutGlow (population : Population Float Float32) : Population Float Float32 :=
  { population with stars := population.stars.map Star.withoutGlow }

/-- The same field with glows turned off. -/
def ParticleField.withoutGlow (field : ParticleField) : ParticleField :=
  { field with
    settings := { field.settings with glowEnabled := false }
    population := field.population.withoutGlow }

/-! ## Layouts -/

section Layouts

variable {settings other : FieldSettings}

theorem Star.related_sample_alike (alike : settings.DrawsAlike other) (view : Viewport)
    (index : ℕ) (layer otherLayer : StarLayer) :
    Related (IsAlike settings.palette.stars other.palette.stars)
      (sample settings view index layer) (sample other view index otherLayer) := by
  refine (Related.choice alike.stars).bind fun color otherColor picked => ?_
  refine .bind_same _ fun x => .bind_same _ fun y => ?_
  refine (Related.inRange _ _).bind fun _ _ _ => (Related.inRange _ _).bind fun _ _ _ => ?_
  refine (Related.inRange _ _).bind fun _ _ _ => (Related.inRange _ _).bind fun _ _ _ => ?_
  exact (Related.inRange _ _).bind fun _ _ _ => .pure ⟨rfl, rfl, picked⟩

theorem Star.related_sample_withoutGlow (settings : FieldSettings) (view : Viewport)
    (index : ℕ) (layer : StarLayer) :
    Related (fun star other => star.withoutGlow = other) (sample settings view index layer)
      (sample { settings with glowEnabled := false } view index layer) := by
  refine .bind_same _ fun color => .bind_same _ fun x => .bind_same _ fun y => ?_
  refine .bind_same _ fun size => .bind_same _ fun baseAlpha => ?_
  refine .bind_same _ fun velocityX => .bind_same _ fun velocityY => ?_
  exact .bind_same _ fun glow => .pure rfl

theorem Nebula.related_sample_alike (alike : settings.DrawsAlike other) (view : Viewport) :
    Related (fun nebula otherNebula => nebula.blobs.length = otherNebula.blobs.length)
      (sample settings view) (sample other view) := by
  have blob : Related (fun _ _ => True) (Blob.sample settings.nebula settings.palette)
      (Blob.sample other.nebula other.palette) := by
    refine (Related.inRange _ _).bind fun _ _ _ => (Related.inRange _ _).bind fun _ _ _ => ?_
    refine (Related.inRange _ _).bind fun _ _ _ => (Related.inRange _ _).bind fun _ _ _ => ?_
    exact (Related.inRange _ _).bind fun _ _ _ => .pure trivial
  unfold sample
  rw [← alike.blobs]
  refine .bind_same _ fun x => .bind_same _ fun y => (Related.inRange _ _).bind fun _ _ _ => ?_
  refine (Related.inRange _ _).bind fun _ _ _ => (Related.inRange _ _).bind fun _ _ _ => ?_
  refine .bind_same _ fun count => (blob.replicate count).bind fun blobs otherBlobs same => ?_
  exact .pure same.length_eq

theorem Population.related_sample_alike (alike : settings.DrawsAlike other) (view : Viewport) :
    Related (IsAlike settings.palette.stars other.palette.stars) (sample settings view)
      (sample other view) := by
  have layers : List.Forall₂ (fun layer otherLayer => layer.count = otherLayer.count)
      settings.layers other.layers := by
    have counts := alike.layers
    rwa [← List.forall₂_eq_eq_eq, List.forall₂_map_left_iff, List.forall₂_map_right_iff] at counts
  refine (Star.related_layers (layers.imp fun layer otherLayer count => ⟨count, fun index =>
    Star.related_sample_alike alike view index layer otherLayer⟩) 0).bind fun _ _ same => ?_
  unfold Nebula.sampleAll
  rw [← alike.nebulae]
  refine ((Nebula.related_sample_alike alike view).replicate _).bind fun _ _ counted => ?_
  exact .pure ⟨same, counted⟩

theorem Population.related_sample_withoutGlow (settings : FieldSettings) (view : Viewport) :
    Related (fun population other => population.withoutGlow = other) (sample settings view)
      (sample { settings with glowEnabled := false } view) := by
  refine (Star.related_layers (List.forall₂_same.mpr fun layer _ => ⟨rfl, fun index =>
    Star.related_sample_withoutGlow settings view index layer⟩) 0).bind fun _ _ same => ?_
  rw [← List.forall₂_map_left_iff, List.forall₂_eq_eq_eq] at same
  have others : Nebula.sampleAll { settings with glowEnabled := false } view =
    Nebula.sampleAll settings view := rfl
  rw [others]
  refine .bind_same _ fun nebulae => .pure ?_
  unfold withoutGlow
  rw [same]

end Layouts

namespace ParticleField

variable {settings other : FieldSettings} {field otherField : ParticleField}

/-! ## Histories of layouts -/

/-- Two fields stand at one place of one stream, and their particles are
alike. -/
structure RunsAlike (settings other : FieldSettings) (field otherField : ParticleField) :
    Prop where
  kept : field.settings = settings
  otherKept : otherField.settings = other
  generator : field.generator = otherField.generator
  population : field.population.IsAlike settings.palette.stars other.palette.stars
    otherField.population

theorem RunsAlike.resize (alike : settings.DrawsAlike other) (accepted : settings.Accepted)
    (otherAccepted : other.Accepted) (before : RunsAlike settings other field otherField)
    (view : Viewport) : Exists fun next => Exists fun otherNext =>
      field.resize view = .ok next ∧ otherField.resize view = .ok otherNext ∧
        RunsAlike settings other next otherNext := by
  rcases before with ⟨rfl, rfl, generator, -⟩
  rcases resize_related accepted otherAccepted generator (Population.related_sample_alike alike view)
    with ⟨population, otherPopulation, moved, related, laidOut, otherLaidOut⟩
  exact ⟨_, _, laidOut, otherLaidOut, rfl, rfl, rfl, related⟩

theorem RunsAlike.run (alike : settings.DrawsAlike other) (accepted : settings.Accepted)
    (otherAccepted : other.Accepted) (before : RunsAlike settings other field otherField)
    (views : List Viewport) : Exists fun last => Exists fun otherLast =>
      field.run (views.map .resize) = .ok last ∧ otherField.run (views.map .resize) = .ok otherLast ∧
        RunsAlike settings other last otherLast := by
  refine run_related (fun call listed field otherField before => ?_) before
  rcases List.mem_map.mp listed with ⟨view, -, rfl⟩
  exact before.resize alike accepted otherAccepted view

/-! ## Histories without glows -/

theorem withoutGlow_moved (field : ParticleField) (steps : Float32) (timeMs : Float) :
    field.withoutGlow.moved steps timeMs = (field.moved steps timeMs).withoutGlow := by
  have stars : (field.population.stars.map Star.withoutGlow).map (·.advance steps field.extent) =
      (field.population.stars.map (·.advance steps field.extent)).map Star.withoutGlow := by
    rw [List.map_map, List.map_map]
    rfl
  exact congrArg (fun stars => { field.withoutGlow with
    population := { (field.moved steps timeMs).population with stars } }) stars

theorem withoutGlow_call (accepted : field.settings.Accepted)
    (otherAccepted : field.withoutGlow.settings.Accepted) (call : FieldCall) {next : ParticleField}
    (called : field.call call = .ok next) :
    field.withoutGlow.call call = .ok next.withoutGlow := by
  cases call with
  | resize view =>
      rcases resize_related accepted otherAccepted rfl
        (Population.related_sample_withoutGlow field.settings view) with
        ⟨population, otherPopulation, moved, rfl, laidOut, otherLaidOut⟩
      cases called.symm.trans laidOut
      exact otherLaidOut
  | tick timeMs =>
      rcases tick_spec accepted timeMs with ⟨steps, frame, counted, -, ticked⟩
      rcases tick_spec otherAccepted timeMs with ⟨otherSteps, otherFrame, otherCounted, -, otherTicked⟩
      cases called.symm.trans (call_tick ticked)
      have same : field.withoutGlow.stepsTo timeMs = field.stepsTo timeMs := rfl
      cases (same.symm.trans otherCounted).symm.trans counted
      rw [call_tick otherTicked, withoutGlow_moved]

theorem withoutGlow_run (accepted : field.settings.Accepted)
    (otherAccepted : field.withoutGlow.settings.Accepted) (calls : List FieldCall) :
    Exists fun last => field.run calls = .ok last ∧
      field.withoutGlow.run calls = .ok last.withoutGlow := by
  induction calls generalizing field with
  | nil => exact ⟨field, rfl, rfl⟩
  | cons call calls ih =>
      rcases call_ok accepted call with ⟨next, called, kept⟩
      have otherKept : next.withoutGlow.settings = field.withoutGlow.settings :=
        congrArg (fun settings => { settings with glowEnabled := false }) kept
      rw [run_cons, run_cons, called, withoutGlow_call accepted otherAccepted call called]
      exact ih (kept ▸ accepted) (otherKept ▸ otherAccepted)

/-- Two fields whose settings agree on the seed, on the numbers of particles
and on the length of the palette stand at one place of the stream after equal
layouts, with particles that are alike.  If all they differ in is that one
shows no glows, they are equal but for the glows after every history, with
ticks or without. -/
theorem run_keeps_stream {empty otherEmpty : ParticleField}
    (configured : configure settings = .ok empty)
    (otherConfigured : configure other = .ok otherEmpty) :
    (settings.DrawsAlike other -> forall views : List Viewport,
      Exists fun field => Exists fun otherField =>
        empty.run (views.map .resize) = .ok field ∧
        otherEmpty.run (views.map .resize) = .ok otherField ∧
        field.generator = otherField.generator ∧
        field.population.IsAlike settings.palette.stars other.palette.stars
          otherField.population) ∧
    (other = { settings with glowEnabled := false } -> forall calls : List FieldCall,
      Exists fun field => empty.run calls = .ok field ∧
        otherEmpty.run calls = .ok field.withoutGlow) := by
  rcases configure_eq_ok.mp configured with ⟨accepted, rfl⟩
  rcases configure_eq_ok.mp otherConfigured with ⟨otherAccepted, rfl⟩
  constructor
  · intro alike views
    have start : RunsAlike settings other (blank settings) (blank other) :=
      ⟨rfl, rfl, congrArg Generator.ofSeed alike.seed, ⟨.nil, .nil⟩⟩
    rcases start.run alike accepted otherAccepted views with
      ⟨field, otherField, reached, otherReached, after⟩
    exact ⟨field, otherField, reached, otherReached, after.generator, after.population⟩
  · rintro rfl calls
    have start : (blank settings).settings.Accepted := accepted
    exact withoutGlow_run start otherAccepted calls

/-- As many particles as by default, which look and move in other ways. -/
def plainSky : FieldSettings where
  layers := [⟨500, ⟨1, 2⟩⟩, ⟨120, ⟨1, 2⟩⟩, ⟨25, ⟨1, 2⟩⟩]
  starAlpha := ⟨0, 0.5⟩
  glowEnabled := false
  palette := { stars := List.replicate 6 .black, nebulaHue := ⟨0, 0⟩ }
  motion := { speedScale := 0 }
  background := .ofRgba ⟨0, 0, 0, 1⟩

theorem run_keeps_stream_plainSky :
    (Exists fun field => Exists fun otherField =>
      run (blank {}) [.resize .smallest, .resize (.ofReadings 640 480 1)] = .ok field ∧
      run (blank plainSky) [.resize .smallest, .resize (.ofReadings 640 480 1)] = .ok otherField ∧
      field.generator = otherField.generator) ∧
    Exists fun field =>
      run (blank {}) [.resize .smallest, .tick 0, .tick 500] = .ok field ∧
      run (blank { glowEnabled := false }) [.resize .smallest, .tick 0, .tick 500] =
        .ok field.withoutGlow := by
  have configured {settings : FieldSettings} (passed : settings.validate = .ok ()) :
      configure settings = .ok (blank settings) :=
    configure_eq_ok.mpr ⟨(FieldSettings.validate_eq_ok settings).mp passed, rfl⟩
  have alike : FieldSettings.DrawsAlike {} plainSky :=
    ⟨rfl, by decide, by decide, rfl, rfl⟩
  constructor
  · rcases (run_keeps_stream (configured rfl) (configured rfl)).1 alike
      [.smallest, .ofReadings 640 480 1] with ⟨field, otherField, reached, otherReached, same, -⟩
    exact ⟨field, otherField, reached, otherReached, same⟩
  · exact (run_keeps_stream (configured rfl) (configured rfl)).2 rfl _

end ParticleField

end Starfield
