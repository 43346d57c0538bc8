import Starfield.Files.Tree
import Starfield.Proofs.Animation.Refreshes
import Starfield.Proofs.Animation.Sessions
import Starfield.Proofs.Image.ReadBack
import Starfield.Proofs.Number.Numeral

namespace Starfield

open Session (Ends)

/-!
# Headless runs

A run that meets no fault and whose files can be written draws all its frames:
it would end early if no frame was asked for, but the animation always asks for
the next.  A capture only reads the surface, so the animation does not depend on
which frames are kept, or where.  What is written for a frame is the file of the
surface as it is then, so whatever reads the files of the encoder finds this
surface in it.
-/

/-! ## Names of images -/

example : captureName 7 = ⟨"frame_00007.png"⟩ := by decide +kernel

namespace Headless

/-! ## The loop -/

section Loop

variable {world : Type} [FileSystem (StateM world)] {encoder : Png.Encoder}
  {moment next : Moment} {rendered : ℕ} {before after : world} {result : Except Halt State}

/-- What a run keeps of a moment. -/
def State.of (moment : Moment) (captured : ℕ) : State :=
  ⟨moment.animator, moment.scheduler, moment.source, captured⟩

/-- A frame that faults ends the run. -/
theorem ends_frames_error (encoder : Png.Encoder) (live : moment.IsLive rendered) {cause : Fault}
    (faulted : refresh moment = .error cause) (settings : Settings) (options : HeadlessOptions)
    (index count captured : ℕ) (before : world) :
    Ends (frames encoder settings options index (count + 1) (.of moment captured)) before
      (.error (.fault cause)) before := by
  rcases live.exists_time with ⟨time, clock, next_eq, answers⟩
  rw [answers] at faulted
  have due : (State.of moment captured).clock.next = (some time, clock) := next_eq
  have running : (State.of moment captured).animator.running = true := live.running
  unfold frames
  rw [due]
  dsimp only
  rw [running]
  rcases Animator.onFrame_halves live.running time moment.source clock with
    ⟨_, same, half⟩ | ⟨applied, settled, rest, fresh, counted, -, -, answered⟩
  · cases same.symm.trans faulted
    change Ends (Session.step (moment.animator.takeUp time moment.source) >>= _) _ _ _
    rcases half with takes | ⟨⟨applied, settled, rest⟩, takes, presents⟩
    · rw [takes]
      exact .bind_error (.step_error cause before)
    · rw [takes]
      refine (Ends.step_ok before).bind ?_
      refine (Ends.option_forM (settled.ends_tellApplied before) applied).bind ?_
      refine (settled.ends_tellFitting before).bind ?_
      dsimp only at presents
      rw [presents]
      exact .bind_error (.step_error cause before)
  · cases answered.symm.trans faulted

/-- A frame that is drawn is captured, and the run goes on from there. -/
theorem ends_frames_ok (live : moment.IsLive rendered) (refreshes : refresh moment = .ok next)
    {settings : Settings} {options : HeadlessOptions} {index count captured : ℕ}
    (rest : Ends (capture encoder options index (.of next captured) >>= fun state =>
      frames encoder settings options (index + 1) count state) before result after) :
    Ends (frames encoder settings options index (count + 1) (.of moment captured)) before
      result after := by
  rcases live.exists_time with ⟨time, clock, next_eq, answers⟩
  rw [answers] at refreshes
  have due : (State.of moment captured).clock.next = (some time, clock) := next_eq
  have running : (State.of moment captured).animator.running = true := live.running
  unfold frames
  rw [due]
  dsimp only
  rw [running]
  rcases Animator.onFrame_halves live.running time moment.source clock with
    ⟨_, faulted, -⟩ | ⟨applied, settled, others, fresh, counted, takes, presents, answered⟩
  · cases faulted.symm.trans refreshes
  · cases answered.symm.trans refreshes
    change Ends (Session.step (moment.animator.takeUp time moment.source) >>= _) _ _ _
    rw [takes]
    refine (Ends.step_ok before).bind ?_
    refine (Ends.option_forM (settled.ends_tellApplied before) applied).bind ?_
    refine (settled.ends_tellFitting before).bind ?_
    rw [presents]
    refine (Ends.step_ok before).bind ?_
    exact (Ends.option_forM (counted.ends_tellFps before _) fresh).bind rest

end Loop

end Headless

/-! ## Images -/

/-- The frames to be kept among `count`, the first of them with the given index,
and the paths of their images. -/
def HeadlessOptions.images (options : HeadlessOptions) (index count : ℕ) : List (ℕ × Path) :=
  match options.outputDirectory with
  | none => []
  | some directory =>
    ((List.range' index count).filter fun index => index % (max options.captureEvery 1).toNat = 0).map
      fun index => (index, directory.join (captureName index))

theorem HeadlessOptions.images_append (options : HeadlessOptions) (index count more : ℕ) :
    options.images index (count + more) =
      options.images index count ++ options.images (index + count) more := by
  unfold images
  cases options.outputDirectory with
  | none => rfl
  | some directory =>
      dsimp only
      rw [← List.range'_append_1, List.filter_append, List.map_append]

namespace Headless

/-- A write is that of a frame: of the file of the surface as it was after the
frame. -/
structure IsCapture (encoder : Png.Encoder) (first : Moment) (image : ℕ × Path)
    (write : FileWrite) : Prop where
  path : write.path = image.2
  content : Exists fun moment => refreshed first (image.1 + 1) = .ok moment ∧
    moment.animator.surface.encodePng encoder = .ok write.content

/-- A run is refused for this cause: a surface could not be encoded, or a file
could not be written. -/
inductive Refused (encoder : Png.Encoder) (first : Moment) (writes : List FileWrite) :
    RunError -> Prop
  | encoding {count : ℕ} {moment : Moment} {cause : Png.EncodingError}
      (reached : refreshed first count = .ok moment)
      (failed : moment.animator.surface.encodePng encoder = .error cause) :
      Refused encoder first writes (.encoding cause)
  | image {write : FileWrite} {cause : FileError} (member : write ∈ writes)
      (failed : write.result = .error cause) : Refused encoder first writes (.image cause)

theorem Refused.after {encoder : Png.Encoder} {first : Moment} {writes : List FileWrite}
    {cause : RunError} (refused : Refused encoder first writes cause)
    (earlier : List FileWrite) : Refused encoder first (earlier ++ writes) cause := by
  cases refused with
  | encoding reached failed => exact .encoding reached failed
  | image member failed => exact .image (List.mem_append_right earlier member) failed

section Writes

variable {disk : Type} [FileSystem (StateM disk)] {encoder : Png.Encoder} {first moment : Moment}
  {index : ℕ}

/-- Whether a file is written depends on the disk alone, once the surface is
encoded. -/
theorem ends_writePng {surface : PixelSurface} {file : ByteArray}
    (encoded : surface.encodePng encoder = .ok file) (path : Path) (before : LoggedDisk disk) :
    Exists fun write => Exists fun after =>
      write.path = path ∧ write.content = file ∧ after.writes = before.writes ++ [write] ∧
      Ends (surface.writePng encoder path) before
        (write.result.mapError fun cause => .error (.image cause)) after := by
  rcases wrote : (FileSystem.writeBytes (m := StateM disk) path file).run before.disk with
    ⟨written, last⟩
  have ran : (FileSystem.writeBytes (m := StateM (LoggedDisk disk)) path file).run before =
      (written, ⟨last, before.writes ++ [⟨path, file, written⟩]⟩) := by
    rw [LoggedDisk.writeBytes_run, wrote]
  refine ⟨⟨path, file, written⟩, ⟨last, before.writes ++ [⟨path, file, written⟩]⟩, rfl, rfl, rfl,
    (Ends.attempt_ok encoded before).bind ?_⟩
  cases written with
  | error cause => exact .bind_error (.onFiles_error ran)
  | ok _ => exact (Ends.onFiles_ok ran).bind (.tell _ _ _ _)

/-- A frame is kept if it is one of those to be kept, unless the run is refused. -/
theorem ends_capture (options : HeadlessOptions) (reached : refreshed first (index + 1) = .ok moment)
    (captured : ℕ) (before : LoggedDisk disk) :
    Exists fun result => Exists fun after => Exists fun new =>
      Ends (capture encoder options index (.of moment captured)) before result after ∧
      after.writes = before.writes ++ new ∧
      ((Exists fun cause => result = .error (.error cause) ∧ Refused encoder first new cause) ∨
        Exists fun total => result = .ok (.of moment total) ∧
          List.Forall₂ (IsCapture encoder first) (options.images index 1) new) := by
  unfold capture HeadlessOptions.images
  cases options.outputDirectory with
  | none =>
      exact ⟨_, before, [], .pure _ before, (List.append_nil _).symm, Or.inr ⟨_, rfl, .nil⟩⟩
  | some directory =>
      dsimp only
      rw [List.range'_one, List.filter_singleton]
      change Exists fun result => Exists fun after => Exists fun new =>
        Ends (if options.captures index then _ else _) before result after ∧ _ ∧
          (_ ∨ Exists fun total => _ ∧
            List.Forall₂ _ (List.map _ (bif options.captures index then _ else _)) new)
      cases options.captures index with
      | false =>
          exact ⟨_, before, [], .pure _ before, (List.append_nil _).symm, Or.inr ⟨_, rfl, .nil⟩⟩
      | true =>
          rw [if_pos rfl, cond_true]
          cases encodes : moment.animator.surface.encodePng encoder with
          | error cause =>
              exact ⟨_, before, [], .bind_error (.bind_error (.attempt_error encodes before)),
                (List.append_nil _).symm, Or.inl ⟨_, rfl, .encoding reached encodes⟩⟩
          | ok file =>
              rcases ends_writePng encodes (directory.join (captureName index)) before with
                ⟨⟨path, content, written⟩, after, rfl, rfl, wrote, ends⟩
              cases written with
              | error cause =>
                  exact ⟨_, after, _, .bind_error ends, wrote,
                    Or.inl ⟨_, rfl, .image (List.mem_singleton_self _) rfl⟩⟩
              | ok _ =>
                  exact ⟨_, after, _, ends.bind (.pure _ _), wrote,
                    Or.inr ⟨_, rfl, .cons ⟨rfl, moment, reached, encodes⟩ .nil⟩⟩

/-- A run draws all its frames and keeps those to be kept, unless a frame faults
or the run is refused. -/
theorem ends_frames (live : first.IsLive 0) (settings : Settings) (options : HeadlessOptions)
    (reached : refreshed first index = .ok moment) (count captured : ℕ)
    (before : LoggedDisk disk) :
    Exists fun result => Exists fun after => Exists fun new =>
      Ends (frames encoder settings options index count (.of moment captured)) before result after ∧
      after.writes = before.writes ++ new ∧
      ((Exists fun cause => result = .error (.fault cause) ∧
          refreshed first (index + count) = .error cause) ∨
        (Exists fun cause => result = .error (.error cause) ∧ Refused encoder first new cause) ∨
        Exists fun last => Exists fun total => result = .ok (.of last total) ∧
          refreshed first (index + count) = .ok last ∧
          List.Forall₂ (IsCapture encoder first) (options.images index count) new) := by
  -- What is left to draw gets less while the index goes up, so the sum of both stays.
  induction count generalizing index moment captured before with
  | zero =>
      refine ⟨_, before, [], .pure _ before, (List.append_nil _).symm,
        Or.inr (Or.inr ⟨moment, captured, rfl, reached, ?_⟩)⟩
      unfold HeadlessOptions.images
      cases options.outputDirectory <;> exact .nil
  | succ count ih =>
      have now : moment.IsLive index := Nat.zero_add index ▸ live.refreshed reached
      have drawn : refreshed first (index + 1) = refresh moment := by
        rw [refreshed, reached]
        rfl
      have parts : options.images index (count + 1) =
          options.images index 1 ++ options.images (index + 1) count := by
        rw [Nat.add_comm count, HeadlessOptions.images_append]
      have shifted : index + (count + 1) = index + 1 + count := by omega
      rw [shifted, parts]
      cases refreshes : refresh moment with
      | error cause =>
          have ends := ends_frames_error encoder now refreshes settings options index count captured
            before
          exact ⟨_, before, [], ends, (List.append_nil _).symm,
            Or.inl ⟨cause, rfl, refreshed_error (drawn.trans refreshes) count⟩⟩
      | ok next =>
          have reachedNext := drawn.trans refreshes
          rcases ends_capture options reachedNext captured before with
            ⟨_, between, new, captures, wrote, ⟨cause, rfl, refused⟩ | ⟨total, rfl, images⟩⟩
          · exact ⟨_, between, new, ends_frames_ok now refreshes captures.bind_error, wrote,
              Or.inr (Or.inl ⟨cause, rfl, refused⟩)⟩
          · rcases ih reachedNext total between with
              ⟨result, after, others, rest, wroteOthers, outcome⟩
            refine ⟨result, after, new ++ others, ends_frames_ok now refreshes (captures.bind rest),
              by rw [wroteOthers, wrote, List.append_assoc], ?_⟩
            rcases outcome with faulted | ⟨cause, same, refused⟩ | ⟨last, all, same, reaches, later⟩
            · exact Or.inl faulted
            · exact Or.inr (Or.inl ⟨cause, same, refused.after new⟩)
            · exact Or.inr (Or.inr ⟨last, all, same, reaches, List.rel_append images later⟩)

end Writes

/-! ## Runs -/

/-- With accepted settings an animation starts, unless there is no surface of
the size of the window. -/
theorem opening_ok {settings : Settings} (accepted : settings.Accepted) (options : HeadlessOptions)
    {surface : PixelSurface}
    (drawable : PixelSurface.ofSize settings.window.viewport.physicalSize = .ok surface) :
    Exists fun field => Exists fun clock =>
      (ParticleField.blank settings.field).resize settings.window.viewport = .ok field ∧
      (Animator.start settings settings.window.viewport (some surface)
        (SimulatedClock.ofRate settings.host.targetFps)).run =
        .ok (.ok (.initial settings field surface, clock)) ∧
      (opening settings options).run = .ok (.ok ⟨none, .initial settings field surface,
        options.resizes settings.window.viewport, clock⟩) ∧
      Moment.IsLive ⟨none, .initial settings field surface,
        options.resizes settings.window.viewport, clock⟩ 0 := by
  rcases Animator.launch_of_accepted accepted settings.window.viewport surface with
    ⟨field, laidOut, launches⟩
  have launched := launches SimulatedClock (.ofRate settings.host.targetFps)
  have started : (Animator.start settings settings.window.viewport (some surface)
      (SimulatedClock.ofRate settings.host.targetFps)).run = .ok (.ok
        (Animator.initial settings field surface,
          Scheduler.request (SimulatedClock.ofRate settings.host.targetFps))) := by
    unfold Animator.start
    rw [launched]
    rfl
  refine ⟨field, _, laidOut, started, ?_, rfl, rfl, 0, 0, Animator.balanced_initial laidOut surface⟩
  unfold opening
  dsimp only
  rw [drawable]
  change (Animator.start settings settings.window.viewport (some surface)
    (SimulatedClock.ofRate settings.host.targetFps) >>= _ :
      ExceptT RunError (Except Fault) Moment).run = _
  rw [ExceptT.run_bind, started]
  rfl

/-- The surface of an animation that has started is sound. -/
theorem isSound_of_opening {settings : Settings} (accepted : settings.Accepted)
    {options : HeadlessOptions} {first : Moment}
    (opened : (opening settings options).run = .ok (.ok first)) :
    first.animator.surface.IsSound := by
  cases drawable : PixelSurface.ofSize settings.window.viewport.physicalSize with
  | error cause =>
      unfold opening at opened
      dsimp only at opened
      rw [drawable] at opened
      cases opened
  | ok surface =>
      rcases opening_ok accepted options drawable with ⟨field, clock, -, -, opens, -⟩
      cases opens.symm.trans opened
      exact PixelSurface.isSound_ofSize drawable

section Runs

variable {disk : Type} [FileSystem (StateM disk)]

/-- What becomes of a run on a disk, and all that it tries to write. -/
def runOn (encoder : Png.Encoder) (settings : Settings) (options : HeadlessOptions) (start : disk) :
    Except Halt FrameStats × List FileWrite :=
  let ((outcome, _), after) :=
    ((run encoder settings options : Session (StateM (LoggedDisk disk)) FrameStats).run.run #[]).run
      ⟨start, []⟩
  (outcome, after.writes)

variable {encoder : Png.Encoder} {settings : Settings} {options : HeadlessOptions} {start : disk}
  {outcome : Except Halt FrameStats} {writes : List FileWrite}

theorem runOn_of_ends {after : LoggedDisk disk}
    (ends : Ends (run encoder settings options) ⟨start, []⟩ outcome after) :
    runOn encoder settings options start = (outcome, after.writes) := by
  rcases ends #[] with ⟨told, ran⟩
  unfold runOn
  rw [ran]

/-- The directory for the images is there or can be made. -/
def Prepared (options : HeadlessOptions) (start : disk) : Prop :=
  forall directory, options.outputDirectory = some directory ->
    ((FileSystem.makeDirectories (m := StateM disk) directory).run start).1 = .ok ()

/-- Nothing that a run asks for is refused: the encoder takes the images of all
surfaces, and the disk makes the directory and writes the files. -/
structure Undisturbed (encoder : Png.Encoder) (options : HeadlessOptions) (start : disk)
    (writes : List FileWrite) : Prop where
  encoded : encoder.AcceptsFull
  prepared : Prepared options start
  written : forall write, write ∈ writes -> write.result = .ok ()

theorem Undisturbed.not_refused (undisturbed : Undisturbed encoder options start writes)
    {first : Moment} (sound : first.animator.surface.IsSound) (cause : RunError) :
    ¬Refused encoder first writes cause := by
  intro refused
  cases refused with
  | encoding reached failed =>
      have full := PixelSurface.isFull_image (isSound_refreshed sound reached)
      rcases undisturbed.encoded full rfl rfl with ⟨file, encoded⟩
      cases encoded.symm.trans failed
  | image member failed => cases (undisturbed.written _ member).symm.trans failed

/-- Making the directory writes no file. -/
theorem ends_prepare (prepared : Prepared options start) :
    Exists fun ready : LoggedDisk disk => ready.writes = [] ∧
      Ends (options.outputDirectory.forM fun directory =>
        Session.onFiles .image (FileSystem.makeDirectories directory))
        (⟨start, []⟩ : LoggedDisk disk) (.ok ()) ready := by
  cases chosen : options.outputDirectory with
  | none => exact ⟨_, rfl, .pure () _⟩
  | some directory =>
      let ready : LoggedDisk disk :=
        ⟨((FileSystem.makeDirectories (m := StateM disk) directory).run start).2, []⟩
      have ran : (FileSystem.makeDirectories (m := StateM (LoggedDisk disk)) directory).run
          ⟨start, []⟩ = (.ok (), ready) := by
        rw [LoggedDisk.makeDirectories_eq]
        exact Prod.ext (prepared directory chosen) rfl
      exact ⟨ready, rfl, .onFiles_ok ran⟩

/-- A run ends as its frames end. -/
theorem ends_run {surface : PixelSurface} {animator : Animator PixelSurface}
    {clock : SimulatedClock} {before ready after : LoggedDisk disk} {result : Except Halt State}
    (drawable : PixelSurface.ofSize settings.window.viewport.physicalSize = .ok surface)
    (prepares : Ends (options.outputDirectory.forM fun directory =>
      Session.onFiles .image (FileSystem.makeDirectories directory)) before (.ok ()) ready)
    (started : (Animator.start settings settings.window.viewport (some surface)
      (SimulatedClock.ofRate settings.host.targetFps)).run = .ok (.ok (animator, clock)))
    (looped : Ends (frames encoder settings options 0 options.frames.toNat
      ⟨animator, clock, options.resizes settings.window.viewport, 0⟩) ready result after) :
    Ends (run encoder settings options) before (result.map fun state => state.animator.stats)
      after := by
  unfold run
  dsimp only
  rw [drawable]
  refine (Ends.step_ok _).bind (prepares.bind ?_)
  rw [started]
  refine (Ends.step_ok _).bind ((Ends.pure _ _).bind ?_)
  refine (animator.ends_tellStart ready).bind ?_
  cases result with
  | error halt => exact looped.bind_error
  | ok state =>
      exact looped.bind ((Ends.tell _ _ _ _).bind ((Ends.tell _ _ _ _).bind (.pure _ _)))

/-- With accepted settings a run draws all its frames, unless the animation
faults or the run is refused. -/
theorem runOn_cases (accepted : settings.Accepted) (prepared : Prepared options start) :
    Exists fun outcome => Exists fun writes =>
      runOn encoder settings options start = (outcome, writes) ∧
      ((Exists fun cause => outcome = .error (.fault cause) ∧
          ((opening settings options).run = .error cause ∨
            Exists fun first => (opening settings options).run = .ok (.ok first) ∧
              refreshed first options.frames.toNat = .error cause)) ∨
        (Exists fun cause => Exists fun first => outcome = .error (.error cause) ∧
          (opening settings options).run = .ok (.ok first) ∧ Refused encoder first writes cause) ∨
        Exists fun first => Exists fun last =>
          (opening settings options).run = .ok (.ok first) ∧
          refreshed first options.frames.toNat = .ok last ∧ last.IsLive options.frames.toNat ∧
          outcome = .ok last.animator.stats ∧
          List.Forall₂ (IsCapture encoder first) (options.images 0 options.frames.toNat) writes) := by
  cases drawable : PixelSurface.ofSize settings.window.viewport.physicalSize with
  | error cause =>
      have ends : Ends (run encoder settings options) (⟨start, []⟩ : LoggedDisk disk)
          (.error (.fault cause)) ⟨start, []⟩ := by
        unfold run
        dsimp only
        rw [drawable]
        exact .bind_error (.step_error cause _)
      refine ⟨_, _, runOn_of_ends ends, Or.inl ⟨cause, rfl, Or.inl ?_⟩⟩
      unfold opening
      dsimp only
      rw [drawable]
      rfl
  | ok surface =>
      rcases opening_ok accepted options drawable with ⟨field, clock, -, started, opened, live⟩
      rcases ends_prepare prepared with ⟨ready, clean, prepares⟩
      rcases ends_frames live settings options (Eq.refl (refreshed _ 0)) options.frames.toNat 0
        ready with ⟨result, after, new, looped, wrote, drawn⟩
      rw [clean, List.nil_append] at wrote
      rw [Nat.zero_add] at drawn
      refine ⟨_, _, runOn_of_ends (ends_run drawable prepares started looped), ?_⟩
      rw [wrote]
      rcases drawn with ⟨cause, rfl, faulted⟩ | ⟨cause, rfl, refused⟩ | ⟨last, total, rfl, reached, kept⟩
      · exact Or.inl ⟨cause, rfl, Or.inr ⟨_, opened, faulted⟩⟩
      · exact Or.inr (Or.inl ⟨cause, _, rfl, opened, refused⟩)
      · have lively := live.refreshed reached
        rw [Nat.zero_add] at lively
        exact Or.inr (Or.inr ⟨_, last, opened, reached, lively, rfl, kept⟩)

end Runs

/-! ## A run on a tree of files -/

/-- No stars and no nebulae, in a view that is laid out anew at once. -/
def emptySky : Settings where
  field := { layers := [], nebula := { count := 0 } }
  window := { width := 2, height := 1 }
  host := { resizeDebounceMs := 0 }

/-- The view shrinks in the first of three frames, and every second is kept. -/
def threeFrames : HeadlessOptions where
  frames := 3
  outputDirectory := some ⟨"out"⟩
  captureEvery := 2
  resize := some ⟨1, 1, 0, 1, 0⟩

end Headless

end Starfield
