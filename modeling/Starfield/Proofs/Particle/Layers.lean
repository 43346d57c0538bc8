import Starfield.Proofs.Particle.HistoryIndependence

namespace Starfield

/-!
# Stars by layers

A layout makes as many particles as the settings count, and ticks only move
them, so the numbers hold from the first layout on.  The layers themselves are
no more than a way to write a list of sizes: a star is drawn for each of them,
and the words that are drawn for it do not depend on the layer that the size
was listed in.  Lists of layers with the same sizes in the same order lead to
the same stars, up to the layer that each star is said to belong to.
-/

/-! ## Numbers of particles -/

/-- As many particles as the settings count, the stars layer by layer. -/
structure Population.Counted (settings : FieldSettings)
    (population : Population Float Float32) : Prop where
  stars : population.stars.length = settings.starCount
  layers : population.stars.map (·.layer) =
    settings.layers.zipIdx.flatMap fun entry => List.replicate entry.1.count.toNat entry.2
  nebulae : population.nebulae.length = settings.nebula.count.toNat
  blobs : forall nebula, nebula ∈ population.nebulae ->
    settings.nebula.blobs.min.toNat ≤ nebula.blobs.length ∧
      nebula.blobs.length ≤ settings.nebula.blobs.max.toNat

theorem Star.DrawnLayers.length_eq {settings : FieldSettings} {view : Viewport} {index : ℕ}
    {layers : List StarLayer} {stars : List (Star Float32)}
    (drawn : DrawnLayers settings view index layers stars) :
    stars.length = layers.foldr (fun layer count => layer.count.toNat + count) 0 := by
  induction layers generalizing index stars with
  | nil =>
      rw [show stars = [] from drawn]
      rfl
  | cons layer layers ih =>
      rcases drawn with ⟨first, rest, rfl, counted, -, others⟩
      rw [List.length_append, counted, ih others]
      rfl

theorem Star.DrawnLayers.layers_eq {settings : FieldSettings} {view : Viewport} {index : ℕ}
    {layers : List StarLayer} {stars : List (Star Float32)}
    (drawn : DrawnLayers settings view index layers stars) :
    stars.map (·.layer) =
      (layers.zipIdx index).flatMap fun entry => List.replicate entry.1.count.toNat entry.2 := by
  induction layers generalizing index stars with
  | nil =>
      rw [show stars = [] from drawn]
      rfl
  | cons layer layers ih =>
      rcases drawn with ⟨first, rest, rfl, counted, own, others⟩
      have same : first.map (·.layer) = List.replicate layer.count.toNat index := by
        rw [← counted, ← List.map_const']
        exact List.map_congr_left fun star inside => (own star inside).layer
      rw [List.map_append, same, ih others, List.zipIdx_cons, List.flatMap_cons]

theorem Population.Drawn.counted {settings : FieldSettings} {view : Viewport}
    {population : Population Float Float32} (drawn : population.Drawn settings view) :
    population.Counted settings where
  stars := drawn.stars.length_eq
  layers := drawn.stars.layers_eq
  nebulae := drawn.nebulae.1
  blobs := fun nebula inside => (drawn.nebulae.2 nebula inside).count

/-! ## Particles up to their places -/

/-- The star as if it stood in the corner of the view. -/
def Star.unplaced (star : Star Float32) : Star Float32 :=
  { star with position := ⟨0, 0⟩ }

/-- The nebula as if its center stood in the corner of the view. -/
def Nebula.unplaced (nebula : Nebula Float32) : Nebula Float32 :=
  { nebula with center := ⟨0, 0⟩ }

/-- The particles of one population are those of another one, up to their
places. -/
structure Population.OnlyMoved (population later : Population Float Float32) : Prop where
  stars : later.stars.map Star.unplaced = population.stars.map Star.unplaced
  nebulae : later.nebulae.map Nebula.unplaced = population.nebulae.map Nebula.unplaced

namespace Population.OnlyMoved

variable {settings : FieldSettings} {population later last : Population Float Float32}

theorem refl (population : Population Float Float32) : population.OnlyMoved population :=
  ⟨rfl, rfl⟩

theorem trans (first : population.OnlyMoved later) (second : later.OnlyMoved last) :
    population.OnlyMoved last :=
  ⟨second.stars.trans first.stars, second.nebulae.trans first.nebulae⟩

/-- Moving particles changes nothing but their places. -/
theorem advance (population : Population Float Float32) (steps : Float32)
    (extent : Point Float32) (time : Option Float) :
    population.OnlyMoved { population.advance steps extent with lastTick := time } :=
  ⟨List.map_map, List.map_map⟩

/-- Particles that only move stay as many and keep what they are counted by. -/
theorem counted (moved : population.OnlyMoved later) (before : population.Counted settings) :
    later.Counted settings := by
  have stars := congrArg List.length moved.stars
  have layers := congrArg (List.map (·.layer)) moved.stars
  have nebulae := congrArg List.length moved.nebulae
  have blobs := congrArg (List.map (·.blobs)) moved.nebulae
  simp only [List.length_map] at stars nebulae
  simp only [List.map_map] at layers blobs
  refine ⟨stars.trans before.stars, layers.trans before.layers, nebulae.trans before.nebulae, ?_⟩
  intro nebula inside
  have listed : nebula.blobs ∈ population.nebulae.map (·.blobs) :=
    blobs ▸ List.mem_map_of_mem (f := (·.blobs)) inside
  rcases List.mem_map.mp listed with ⟨other, otherInside, same⟩
  exact same ▸ before.blobs other otherInside

end Population.OnlyMoved

/-! ## Stars up to their layers -/

/-- The sizes that stars are drawn for, one for each star. -/
def StarLayer.sizes (layer : StarLayer) : List Range :=
  List.replicate layer.count.toNat layer.size

/-- The star as if it were of the first layer. -/
def Star.unlayered (star : Star Float32) : Star Float32 :=
  { star with layer := 0 }

def Population.unlayered (population : Population Float Float32) : Population Float Float32 :=
  { population with stars := population.stars.map Star.unlayered }

theorem Population.unlayered_eq_iff {population other : Population Float Float32} :
    population.unlayered = other.unlayered ↔
      population.stars.map Star.unlayered = other.stars.map Star.unlayered ∧
        population.nebulae = other.nebulae ∧ population.lastTick = other.lastTick := by
  simp [unlayered]

theorem Population.unlayered_advance (population : Population Float Float32) (steps : Float32)
    (extent : Point Float32) (time : Option Float) :
    unlayered { population.advance steps extent with lastTick := time } =
      { population.unlayered.advance steps extent with lastTick := time } := by
  simp [unlayered, advance, Star.unlayered, Star.advance]

namespace Sampler

variable {α β γ : Type} {sample : Sampler α} {view : α -> γ} {draw : β -> Sampler γ} {entry : β}

theorem map_repeatOnto (drawn : view <$> sample = draw entry) (done : Array α) (times : ℕ) :
    (·.toList.map view) <$> repeatOnto sample done times =
      (done.toList.map view ++ ·) <$> (List.replicate times entry).mapM draw := by
  induction times generalizing done with
  | zero => simp [repeatOnto]
  | succ times ih => simp [repeatOnto, ih, List.replicate_succ, List.mapM_cons, ← drawn]

/-- Repeating goes through as many equal entries. -/
theorem map_replicate (drawn : view <$> sample = draw entry) (times : ℕ) :
    List.map view <$> replicate times sample = (List.replicate times entry).mapM draw := by
  simpa [replicate] using map_repeatOnto drawn #[] times

end Sampler

namespace Star

/-- A star of the first layer with a size out of a range. -/
def sampleSize (settings : FieldSettings) (view : Viewport) (size : Range) :
    Sampler (Star Float32) :=
  sample settings view 0 ⟨1, size⟩

theorem map_unlayered_sample (settings : FieldSettings) (view : Viewport) (index : ℕ)
    (layer : StarLayer) :
    unlayered <$> sample settings view index layer = sampleSize settings view layer.size := by
  simp [sampleSize, sample, unlayered]

/-- Up to their layers, stars are drawn size by size. -/
theorem map_unlayered_sampleLayers (settings : FieldSettings) (view : Viewport) (index : ℕ)
    (layers : List StarLayer) :
    List.map unlayered <$> sampleLayers settings view index layers =
      (layers.flatMap StarLayer.sizes).mapM (sampleSize settings view) := by
  induction layers generalizing index with
  | nil => simp [sampleLayers]
  | cons layer layers ih =>
      have own := Sampler.map_replicate (map_unlayered_sample settings view index layer)
        layer.count.toNat
      rw [List.flatMap_cons, List.mapM_append, StarLayer.sizes, ← own, ← ih (index + 1)]
      simp [sampleLayers]

end Star

namespace FieldSettings

/-- The layers list the same sizes in the same order. -/
def SizesAlike (settings : FieldSettings) (layers : List StarLayer) : Prop :=
  settings.layers.flatMap StarLayer.sizes = layers.flatMap StarLayer.sizes

section Split

variable {front back : List StarLayer} {whole first second : UInt32} {size : Range}

theorem sizesAlike_split (settings : FieldSettings)
    (listed : settings.layers = front ++ ⟨whole, size⟩ :: back)
    (together : whole.toNat = first.toNat + second.toNat) :
    settings.SizesAlike (front ++ ⟨first, size⟩ :: ⟨second, size⟩ :: back) := by
  have sizes : StarLayer.sizes ⟨whole, size⟩ =
      StarLayer.sizes ⟨first, size⟩ ++ StarLayer.sizes ⟨second, size⟩ := by
    unfold StarLayer.sizes
    rw [together, List.replicate_add]
  unfold SizesAlike
  rw [listed, List.flatMap_append, List.flatMap_append, List.flatMap_cons, List.flatMap_cons,
    List.flatMap_cons, sizes, List.append_assoc]

theorem Accepted.split {settings : FieldSettings} (accepted : settings.Accepted)
    (listed : settings.layers = front ++ ⟨whole, size⟩ :: back) (first second : UInt32) :
    Accepted { settings with
      layers := front ++ ⟨first, size⟩ :: ⟨second, size⟩ :: back } := by
  have layers := accepted.layers
  rw [listed, List.forall_mem_append, List.forall_mem_cons] at layers
  refine { accepted with layers := ?_ }
  rw [List.forall_mem_append, List.forall_mem_cons, List.forall_mem_cons]
  exact ⟨layers.1, layers.2.1, layers.2.1, layers.2.2⟩

end Split

end FieldSettings

/-- Layers with the same sizes are drawn alike, up to the layer of each star. -/
theorem Population.map_unlayered_sample {settings : FieldSettings} {layers : List StarLayer}
    (alike : settings.SizesAlike layers) (view : Viewport) :
    unlayered <$> sample settings view = unlayered <$> sample { settings with layers } view := by
  have stars : List.map Star.unlayered <$> Star.sampleAll settings view =
      List.map Star.unlayered <$> Star.sampleAll { settings with layers } view := by
    unfold Star.sampleAll
    rw [Star.map_unlayered_sampleLayers, Star.map_unlayered_sampleLayers, alike]
    rfl
  have apart (settings : FieldSettings) : unlayered <$> sample settings view = do
      let stars <- List.map Star.unlayered <$> Star.sampleAll settings view
      let nebulae <- Nebula.sampleAll settings view
      return { stars, nebulae } := by
    simp [sample, unlayered]
  rw [apart, apart, stars]
  rfl

namespace ParticleField

variable {settings : FieldSettings} {layers : List StarLayer} {field otherField : ParticleField}

/-- Two fields whose settings differ in the layers stand at one place of the
stream, with the same particles up to the layers of the stars. -/
structure RunsRegrouped (settings : FieldSettings) (layers : List StarLayer)
    (field otherField : ParticleField) : Prop where
  kept : field.settings = settings
  otherKept : otherField.settings = { settings with layers }
  generator : field.generator = otherField.generator
  viewport : field.viewport = otherField.viewport
  generation : field.generation = otherField.generation
  population : field.population.unlayered = otherField.population.unlayered

theorem RunsRegrouped.call (alike : settings.SizesAlike layers) (accepted : settings.Accepted)
    (otherAccepted : FieldSettings.Accepted { settings with layers })
    (before : RunsRegrouped settings layers field otherField) (call : FieldCall) :
    Exists fun next => Exists fun otherNext => field.call call = .ok next ∧
      otherField.call call = .ok otherNext ∧ RunsRegrouped settings layers next otherNext := by
  rcases before with ⟨rfl, otherKept, generator, viewport, generation, population⟩
  rw [← otherKept] at otherAccepted
  cases call with
  | resize view =>
      have related := Sampler.Related.of_map_eq (Population.map_unlayered_sample alike view)
      rw [← otherKept] at related
      rcases resize_related accepted otherAccepted generator related with
        ⟨population, otherPopulation, moved, same, laidOut, otherLaidOut⟩
      exact ⟨_, _, laidOut, otherLaidOut, rfl, otherKept, rfl, rfl, congrArg (· + 1) generation, same⟩
  | tick timeMs =>
      rcases tick_spec accepted timeMs with ⟨steps, frame, counted, -, ticked⟩
      rcases tick_spec otherAccepted timeMs with ⟨otherSteps, otherFrame, otherCounted, -, otherTicked⟩
      have clock : otherField.stepsTo timeMs = field.stepsTo timeMs := by
        unfold stepsTo Population.elapsed
        rw [(Population.unlayered_eq_iff.mp population).2.2, otherKept]
      cases (clock.symm.trans otherCounted).symm.trans counted
      have extent : field.extent = otherField.extent := by
        unfold ParticleField.extent
        rw [viewport]
      refine ⟨_, _, call_tick ticked, call_tick otherTicked, rfl, otherKept, generator, viewport,
        generation, ?_⟩
      unfold moved
      rw [Population.unlayered_advance, Population.unlayered_advance, population, extent]

theorem RunsRegrouped.run (alike : settings.SizesAlike layers) (accepted : settings.Accepted)
    (otherAccepted : FieldSettings.Accepted { settings with layers })
    (before : RunsRegrouped settings layers field otherField) (calls : List FieldCall) :
    Exists fun last => Exists fun otherLast => field.run calls = .ok last ∧
      otherField.run calls = .ok otherLast ∧ RunsRegrouped settings layers last otherLast :=
  run_related (fun call _ _ _ before => before.call alike accepted otherAccepted call) before

/-- Ticks move particles and the time, and do nothing else. -/
theorem run_ticks (accepted : field.settings.Accepted) (times : List Float) :
    Exists fun later => field.run (times.map .tick) = .ok later ∧
      later = { field with population := later.population } ∧
      field.population.OnlyMoved later.population := by
  induction times generalizing field with
  | nil => exact ⟨field, rfl, rfl, .refl _⟩
  | cons timeMs times ih =>
      rcases tick_spec accepted timeMs with ⟨steps, frame, -, -, ticked⟩
      have kept : (field.moved steps timeMs).settings.Accepted := accepted
      rcases ih kept with ⟨later, reached, same, moved⟩
      refine ⟨later, ?_, same, (Population.OnlyMoved.advance _ steps _ _).trans moved⟩
      rw [List.map_cons, run_cons, call_tick ticked]
      exact reached

/-- From the first layout on, a field has as many particles as its settings
count.  Ticks change the places of the particles and nothing else about them.
A layer that is written as two layers of the same size, one after the other,
makes no difference but for the layers of the stars. -/
theorem run_populated {empty : ParticleField} (configured : configure settings = .ok empty) :
    (forall calls view, .resize view ∈ calls -> Exists fun field =>
      empty.run calls = .ok field ∧ field.population.Counted settings) ∧
    (forall calls (times : List Float), Exists fun field => Exists fun later =>
      empty.run calls = .ok field ∧ empty.run (calls ++ times.map .tick) = .ok later ∧
      later = { field with population := later.population } ∧
      field.population.OnlyMoved later.population) ∧
    forall front back whole first second size,
      settings.layers = front ++ ⟨whole, size⟩ :: back ->
      whole.toNat = first.toNat + second.toNat ->
      Exists fun otherEmpty =>
        configure { settings with
          layers := front ++ ⟨first, size⟩ :: ⟨second, size⟩ :: back } = .ok otherEmpty ∧
        forall calls, Exists fun field => Exists fun otherField =>
          empty.run calls = .ok field ∧ otherEmpty.run calls = .ok otherField ∧
          otherField.population.stars.map Star.unlayered =
            field.population.stars.map Star.unlayered ∧
          otherField.population.nebulae = field.population.nebulae ∧
          otherField.generator = field.generator := by
  rcases configure_eq_ok.mp configured with ⟨accepted, rfl⟩
  refine ⟨?_, ?_, ?_⟩
  · intro calls view listed
    rcases run_induction configured
      (motive := fun calls field => (Exists fun view => FieldCall.resize view ∈ calls) ->
        field.population.Counted settings)
      (by simp) (fun _ _ _ _ _ drawn _ => drawn.counted) (by
        rintro calls field timeMs steps - - - holds ⟨view, inside⟩
        refine (Population.OnlyMoved.advance _ steps _ _).counted (holds ⟨view, ?_⟩)
        simpa using inside) calls with ⟨field, reached, -, counted⟩
    exact ⟨field, reached, counted ⟨view, listed⟩⟩
  · intro calls times
    have start : (blank settings).settings.Accepted := accepted
    rcases run_ok start calls with ⟨field, reached, kept⟩
    have still : field.settings.Accepted := kept ▸ accepted
    rcases run_ticks still times with ⟨later, ticked, same, moved⟩
    refine ⟨field, later, reached, ?_, same, moved⟩
    rw [run_append, reached]
    exact ticked
  · intro front back whole first second size listed together
    have alike := settings.sizesAlike_split listed together
    have otherAccepted := accepted.split listed first second
    refine ⟨_, configure_eq_ok.mpr ⟨otherAccepted, rfl⟩, fun calls => ?_⟩
    have start : RunsRegrouped settings _ (blank settings) (blank { settings with
        layers := front ++ ⟨first, size⟩ :: ⟨second, size⟩ :: back }) :=
      ⟨rfl, rfl, rfl, rfl, rfl, rfl⟩
    rcases start.run alike accepted otherAccepted calls with
      ⟨field, otherField, reached, otherReached, after⟩
    rcases Population.unlayered_eq_iff.mp after.population.symm with ⟨stars, nebulae, -⟩
    exact ⟨field, otherField, reached, otherReached, stars, nebulae, after.generator.symm⟩

/-- The settings by default, with the second layer in two parts. -/
def partedSky : FieldSettings where
  layers := [⟨500, ⟨0.3, 0.8⟩⟩, ⟨100, ⟨0.8, 1.5⟩⟩, ⟨20, ⟨0.8, 1.5⟩⟩, ⟨25, ⟨1.5, 2⟩⟩]

theorem run_populated_default :
    (Exists fun field => Exists fun later =>
      run (blank {}) [.resize .smallest, .tick 0] = .ok field ∧
      run (blank {}) [.resize .smallest, .tick 0, .tick 500] = .ok later ∧
      field.population.stars.length = 645 ∧ field.population.nebulae.length = 6 ∧
      field.population.OnlyMoved later.population) ∧
    Exists fun field => Exists fun otherField =>
      run (blank {}) [.resize .smallest, .tick 0] = .ok field ∧
      run (blank partedSky) [.resize .smallest, .tick 0] = .ok otherField ∧
      otherField.population.stars.map Star.unlayered =
        field.population.stars.map Star.unlayered := by
  have configured : configure {} = .ok (blank {}) :=
    configure_eq_ok.mpr ⟨(FieldSettings.validate_eq_ok {}).mp rfl, rfl⟩
  rcases run_populated configured with ⟨populated, still, parted⟩
  constructor
  · rcases populated [.resize .smallest, .tick 0] .smallest (by simp) with ⟨field, reached, counted⟩
    rcases still [.resize .smallest, .tick 0] [500] with
      ⟨before, later, reachedAgain, reachedLater, -, moved⟩
    cases reached.symm.trans reachedAgain
    exact ⟨field, later, reached, reachedLater, counted.stars.trans (by decide),
      counted.nebulae.trans (by decide), moved⟩
  · rcases parted [⟨500, ⟨0.3, 0.8⟩⟩] [⟨25, ⟨1.5, 2⟩⟩] 120 100 20 ⟨0.8, 1.5⟩ rfl (by decide) with
      ⟨otherEmpty, otherConfigured, alike⟩
    rcases configure_eq_ok.mp otherConfigured with ⟨-, rfl⟩
    rcases alike [.resize .smallest, .tick 0] with
      ⟨field, otherField, reached, otherReached, stars, -⟩
    exact ⟨field, otherField, reached, otherReached, stars⟩

end ParticleField

end Starfield
