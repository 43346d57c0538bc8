import Starfield.Proofs.Animation.Captures
import Starfield.Proofs.Animation.Shown

namespace Starfield

open Session (Ends)

/-!
# Faults of headless runs

With accepted settings nothing but the surface can fault: it has no room for as
many pixels as a view asks for, or a disc is clipped behind its edge.  Both are
matters of the view alone.  An animation never has another view than that of its
window or of one of the changes it was told of; so it is enough to look at these
to know that a run does not fault.
-/

/-! ## Causes -/

/-- A frame in this view can fault like this. -/
def Viewport.Explains (view : Viewport) : Fault -> Prop
  | .areaOverflow => UInt32.size ≤ view.physicalSize.area
  | .pixelOutside => view.physicalSize.area < UInt32.size ∧ ¬view.physicalSize.ClipsDown
  | _ => False

/-- There is room for the pixels of this view, and discs are clipped to them. -/
def Viewport.IsSafe (view : Viewport) : Prop :=
  view.physicalSize.area < UInt32.size ∧ view.physicalSize.ClipsDown

instance (view : Viewport) : Decidable view.IsSafe :=
  inferInstanceAs (Decidable (view.physicalSize.area < UInt32.size ∧ view.physicalSize.ClipsDown))

theorem Viewport.IsSafe.not_explains {view : Viewport} (safe : view.IsSafe) (cause : Fault) :
    ¬view.Explains cause := by
  cases cause with
  | areaOverflow => exact not_le.mpr safe.1
  | pixelOutside => exact fun outside => outside.2 safe.2
  | _ => exact id

namespace PixelSurface

variable {surface : PixelSurface} {cause : Fault}

theorem layAll_error {strokes : List Stroke} (faulted : surface.layAll strokes = .error cause) :
    cause = .pixelOutside := by
  induction strokes generalizing surface with
  | nil => cases faulted
  | cons stroke strokes ih =>
      rw [layAll, List.foldlM_cons] at faulted
      rcases stroke.lay_cases surface with ⟨-, laid⟩ | ⟨-, inside, laid⟩ | ⟨-, -, refused⟩
      · rw [laid] at faulted
        exact ih faulted
      · rw [laid] at faulted
        exact ih faulted
      · rw [refused] at faulted
        cases faulted
        rfl

theorem draw_error {command : DrawCommand} (drawing : command.isDrawing = true)
    (faulted : Surface.draw command surface = .error cause) : cause = .pixelOutside := by
  rw [draw_eq] at faulted
  cases command with
  | resize size => cases drawing
  | clear color => cases faulted
  | _ => exact layAll_error faulted

theorem drawAll_error {commands : List DrawCommand}
    (drawings : forall command, command ∈ commands -> command.isDrawing = true)
    (faulted : Surface.drawAll commands surface = .error cause) : cause = .pixelOutside := by
  induction commands generalizing surface with
  | nil => cases faulted
  | cons command commands ih =>
      rw [Surface.drawAll_cons] at faulted
      cases drawn : Surface.draw command surface with
      | error first =>
          rw [drawn] at faulted
          cases faulted
          exact draw_error (drawings command List.mem_cons_self) drawn
      | ok next =>
          rw [drawn] at faulted
          exact ih (fun other member => drawings other (List.mem_cons_of_mem command member)) faulted

end PixelSurface

/-- Painting on a sound surface faults because of the view only. -/
theorem Frame.explains_of_paint {frame : Frame} {surface : PixelSurface} (sound : surface.IsSound)
    {cause : Fault} (faulted : frame.paint surface = .error cause) :
    frame.viewport.Explains cause := by
  have exposed (fits : frame.viewport.physicalSize.area < UInt32.size) :
      ¬frame.viewport.physicalSize.ClipsDown := by
    intro clips
    rcases paint_ok_of_clipsDown sound fits clips with ⟨painted, paints⟩
    cases paints.symm.trans faulted
  rw [paint_sound frame sound] at faulted
  split_ifs at faulted with fits
  · rw [PixelSurface.drawAll_error (fun _ => isDrawing_details frame) faulted]
    exact ⟨fits, exposed fits⟩
  · cases faulted
    exact not_lt.mp fits

/-- What is held back was held back before, or is one of the changes that were
taken up. -/
theorem ResizeDebouncer.mem_pending_pushAll {debouncer : ResizeDebouncer}
    {events : List ResizeEvent} {event : ResizeEvent}
    (held : event ∈ (debouncer.pushAll events).pending) :
    event ∈ debouncer.pending ∨ event ∈ events := by
  induction events generalizing debouncer with
  | nil => exact Or.inl held
  | cons first events ih =>
      rcases ih held with now | later
      · cases now
        exact Or.inr List.mem_cons_self
      · exact Or.inr (List.mem_cons_of_mem first later)

namespace Headless

/-! ## Views -/

/-- The views that an animation can have: that of the window, and those of the
changes to come. -/
def views (settings : Settings) (options : HeadlessOptions) : List Viewport :=
  settings.window.viewport ::
    (options.resizes settings.window.viewport).events.map ResizeEvent.viewport

/-- An animation that has one of some views and will have no other. -/
structure Moment.StaysIn (given : List Viewport) (moment : Moment) : Prop where
  sound : moment.animator.surface.IsSound
  accepted : moment.animator.field.settings.Accepted
  shown : moment.animator.field.viewport ∈ given
  held : forall event, event ∈ moment.animator.debouncer.pending -> event.viewport ∈ given
  coming : forall event, event ∈ moment.source.events -> event.viewport ∈ given

/-- The next refresh draws a frame in this view. -/
def Moment.DrawsIn (moment : Moment) (view : Viewport) : Prop :=
  moment.animator.running = true ∧ Exists fun time => Exists fun clock =>
    moment.scheduler.next = (some time, clock) ∧
    Exists fun applied => Exists fun settled => Exists fun rest =>
      moment.animator.takeUp time moment.source = .ok (applied, settled, rest) ∧
      settled.field.viewport = view

variable {given : List Viewport} {moment next first : Moment}

/-- Changes that are taken up are among those to come. -/
theorem Moment.StaysIn.takeUp (stays : moment.StaysIn given) (time : Float) :
    Exists fun applied => Exists fun settled =>
      ((ResizeSource.drain time moment.source).1.foldl Animator.onResize moment.animator).settle
        time = .ok (applied, settled) ∧
      StaysIn given { moment with
        animator := settled, source := (ResizeSource.drain time moment.source).2 } := by
  rcases ScriptedResizes.drain_spec time moment.source with ⟨due, left, drained, all, -⟩
  rcases Animator.onResizes_eq moment.animator due with ⟨stats, taken⟩
  have accepted : (due.foldl Animator.onResize moment.animator).field.settings.Accepted := by
    rw [taken]
    exact stays.accepted
  rcases Animator.settle_ok accepted time with ⟨applied, settled, settles, kept, same⟩
  rw [drained]
  refine ⟨applied, settled, settles, ?_⟩
  rw [taken] at settles kept same
  have known (event : ResizeEvent)
      (held : event ∈ (moment.animator.debouncer.pushAll due).pending) : event.viewport ∈ given := by
    rcases ResizeDebouncer.mem_pending_pushAll held with before | new
    · exact stays.held event before
    · exact stays.coming event (all ▸ List.mem_append_left left new)
  have coming (event : ResizeEvent) (member : event ∈ left) : event.viewport ∈ given :=
    stays.coming event (all ▸ List.mem_append_right due member)
  have sound : settled.surface.IsSound := same ▸ stays.sound
  have settings : settled.field.settings.Accepted := kept ▸ stays.accepted
  rcases Animator.of_settle_eq_ok settles with
    ⟨event, field, held, -, laidOut, -, rfl⟩ | ⟨-, -, rfl⟩
  · have shown : field.viewport = event.viewport := (ParticleField.of_resize_eq_ok laidOut).2.1
    exact ⟨sound, settings, shown ▸ known event held, nofun, coming⟩
  · exact ⟨sound, settings, stays.shown, known, coming⟩

/-- A refresh draws in one view. -/
theorem Moment.DrawsIn.unique {view other : Viewport} (draws : moment.DrawsIn view)
    (again : moment.DrawsIn other) : view = other := by
  rcases draws with ⟨-, time, clock, next, applied, settled, rest, takes, rfl⟩
  rcases again with ⟨-, _, _, sameNext, _, _, _, sameTakes, rfl⟩
  cases next.symm.trans sameNext
  cases takes.symm.trans sameTakes
  rfl

/-- Only the animator and the changes to come matter. -/
theorem Moment.StaysIn.idle (stays : moment.StaysIn given) (report : Option FrameReport)
    (scheduler : SimulatedClock) : StaysIn given { moment with report, scheduler } :=
  ⟨stays.sound, stays.accepted, stays.shown, stays.held, stays.coming⟩

/-- A frame faults because of its view only, and only where there is room for the
view does it not fault. -/
theorem Moment.StaysIn.onFrame (stays : moment.StaysIn given)
    (running : moment.animator.running = true) {time : Float} {clock : SimulatedClock}
    (due : moment.scheduler.next = (some time, clock)) :
    Exists fun view => view ∈ given ∧ moment.DrawsIn view ∧
      ((Exists fun cause => moment.animator.onFrame time moment.source clock = .error cause ∧
          view.Explains cause) ∨
        Exists fun next => moment.animator.onFrame time moment.source clock = .ok next ∧
          StaysIn given next ∧ view.physicalSize.area < UInt32.size) := by
  rcases stays.takeUp time with ⟨applied, settled, settles, settledStays⟩
  have takes : moment.animator.takeUp time moment.source =
      .ok (applied, settled, (ResizeSource.drain time moment.source).2) := by
    unfold Animator.takeUp
    dsimp only
    rw [settles]
    rfl
  refine ⟨settled.field.viewport, settledStays.shown,
    ⟨running, time, clock, due, applied, settled, _, takes, rfl⟩, ?_⟩
  rcases ParticleField.tick_spec settledStays.accepted time with ⟨steps, frame, -, shows, ticked⟩
  have view_eq : frame.viewport = settled.field.viewport :=
    (ParticleField.viewport_of_describe shows).trans rfl
  rw [Animator.onFrame_eq running settles, Animator.draw_eq ticked, ← view_eq]
  cases paints : frame.paint settled.surface with
  | error cause => exact Or.inl ⟨cause, rfl, frame.explains_of_paint settledStays.sound paints⟩
  | ok surface =>
      have painted := Frame.of_paint_eq_ok settledStays.sound paints
      refine Or.inr ⟨_, rfl, ⟨painted.1, settledStays.accepted, settledStays.shown,
        settledStays.held, settledStays.coming⟩, ?_⟩
      rw [← painted.2]
      exact painted.1.area_lt

/-- A refresh draws in one of the views or does nothing. -/
theorem Moment.StaysIn.refresh (stays : moment.StaysIn given) :
    (Exists fun view => view ∈ given ∧ moment.DrawsIn view ∧ Exists fun cause =>
      refresh moment = .error cause ∧ view.Explains cause) ∨
    Exists fun next => refresh moment = .ok next ∧ next.StaysIn given ∧
      forall view, moment.DrawsIn view -> view.physicalSize.area < UInt32.size := by
  unfold Headless.refresh
  rcases due : moment.scheduler.next with ⟨none | time, clock⟩
  · refine Or.inr ⟨_, rfl, stays.idle none clock, ?_⟩
    rintro view ⟨-, time, other, answers, -⟩
    cases due.symm.trans answers
  cases running : moment.animator.running with
  | false =>
      refine Or.inr ⟨_, Animator.onFrame_of_not_running running time moment.source clock,
        stays.idle none clock, ?_⟩
      rintro view ⟨active, -⟩
      cases running.symm.trans active
  | true =>
      rcases stays.onFrame running due with
        ⟨view, known, draws, faulted | ⟨next, drawn, later, room⟩⟩
      · exact Or.inl ⟨view, known, draws, faulted⟩
      · exact Or.inr ⟨next, drawn, later, fun other again => draws.unique again ▸ room⟩

/-- What is drawn refresh by refresh stays in its views and faults because of
them only. -/
theorem Moment.StaysIn.refreshed (stays : first.StaysIn given) (count : ℕ) :
    (Exists fun view => view ∈ given ∧ Exists fun cause =>
      refreshed first count = .error cause ∧ view.Explains cause) ∨
    Exists fun last => refreshed first count = .ok last ∧ last.StaysIn given := by
  induction count with
  | zero => exact Or.inr ⟨first, rfl, stays⟩
  | succ count ih =>
      rw [Headless.refreshed]
      rcases ih with ⟨view, known, cause, faulted, explains⟩ | ⟨last, reached, now⟩
      · exact Or.inl ⟨view, known, cause, by rw [faulted]; rfl, explains⟩
      · rw [reached, Outcome.ok_bind]
        rcases now.refresh with ⟨view, known, -, faulted⟩ | ⟨next, drawn, later, -⟩
        · exact Or.inl ⟨view, known, faulted⟩
        · exact Or.inr ⟨next, drawn, later⟩

/-- Without room for the view a frame faults. -/
theorem Moment.StaysIn.refresh_error (stays : moment.StaysIn given) {view : Viewport}
    (draws : moment.DrawsIn view) (large : UInt32.size ≤ view.physicalSize.area) :
    Headless.refresh moment = .error .areaOverflow := by
  rcases stays.refresh with ⟨other, -, drawn, cause, faulted, explains⟩ | ⟨next, -, -, room⟩
  · cases draws.unique drawn
    cases cause with
    | areaOverflow => exact faulted
    | pixelOutside => cases not_le.mpr explains.1 large
    | _ => cases explains
  · cases not_le.mpr (room view draws) large

/-! ## Runs -/

/-- There is a surface for the window exactly if it has room. -/
theorem ofSize_window (view : Viewport) :
    (view.physicalSize.area < UInt32.size ∧ Exists fun surface =>
      PixelSurface.ofSize view.physicalSize = .ok surface ∧ surface.IsSound) ∨
    (UInt32.size ≤ view.physicalSize.area ∧
      PixelSurface.ofSize view.physicalSize = .error .areaOverflow) := by
  by_cases room : view.physicalSize.area < UInt32.size
  · have made := PixelSurface.ofSize_eq_ok.mpr ⟨by rwa [view.atLeastOne_physicalSize], rfl⟩
    exact Or.inl ⟨room, _, made, PixelSurface.isSound_ofSize made⟩
  · refine Or.inr ⟨not_lt.mp room, ?_⟩
    unfold PixelSurface.ofSize
    rw [view.atLeastOne_physicalSize]
    exact if_neg room

section Runs

variable {disk : Type} [FileSystem (StateM disk)] {encoder : Png.Encoder} {settings : Settings}
  {options : HeadlessOptions} {start : disk}

/-- An animation that has started stays in the views of its run. -/
theorem stays_of_opening (accepted : settings.Accepted)
    (opened : (opening settings options).run = .ok (.ok first)) :
    first.StaysIn (views settings options) ∧ first.IsLive 0 := by
  rcases ofSize_window settings.window.viewport with ⟨-, surface, made, sound⟩ | ⟨-, refused⟩
  · rcases opening_ok accepted options made with ⟨field, clock, laidOut, -, opens, live⟩
    cases opens.symm.trans opened
    rcases ParticleField.of_resize_eq_ok laidOut with ⟨kept, shown, -⟩
    have field_accepted : field.settings.Accepted := kept ▸ accepted.field
    refine ⟨⟨sound, field_accepted, ?_, nofun, fun event coming => ?_⟩, live⟩
    · exact List.mem_cons.mpr (Or.inl shown)
    · exact List.mem_cons_of_mem _ (List.mem_map_of_mem coming)
  · unfold opening at opened
    dsimp only at opened
    rw [refused] at opened
    cases opened

/-- Without room for the window a run faults before it does anything. -/
theorem runOn_of_refused
    (refused : PixelSurface.ofSize settings.window.viewport.physicalSize = .error .areaOverflow) :
    runOn encoder settings options start = (.error (.fault .areaOverflow), []) := by
  have ends : Ends (run encoder settings options) (⟨start, []⟩ : LoggedDisk disk)
      (.error (.fault .areaOverflow)) ⟨start, []⟩ := by
    unfold run
    dsimp only
    rw [refused]
    exact .bind_error (.step_error _ _)
  exact runOn_of_ends ends

/-- Where the directory for images cannot be made a run draws nothing. -/
theorem runOn_of_unprepared (encoder : Png.Encoder) {surface : PixelSurface}
    (drawable : PixelSurface.ofSize settings.window.viewport.physicalSize = .ok surface)
    (unprepared : ¬Prepared options start) :
    Exists fun cause => (runOn encoder settings options start).1 = .error (.error (.image cause)) := by
  rcases not_forall.mp unprepared with ⟨directory, refused⟩
  rcases Classical.not_imp.mp refused with ⟨chosen, failed⟩
  rcases made : (FileSystem.makeDirectories (m := StateM disk) directory).run start with ⟨result, last⟩
  rw [made] at failed
  cases result with
  | ok _ => cases failed rfl
  | error cause =>
      have ran : (FileSystem.makeDirectories (m := StateM (LoggedDisk disk)) directory).run
          ⟨start, []⟩ = (.error cause, ⟨last, []⟩) := by
        rw [LoggedDisk.makeDirectories_eq]
        exact congrArg (fun made => (made.1, (⟨made.2, []⟩ : LoggedDisk disk))) made
      have ends : Ends (run encoder settings options) (⟨start, []⟩ : LoggedDisk disk)
          (.error (.error (.image cause))) ⟨last, []⟩ := by
        unfold run
        dsimp only
        rw [drawable, chosen]
        exact (Ends.step_ok _).bind (.bind_error (.onFiles_error ran))
      exact ⟨cause, congrArg Prod.fst (runOn_of_ends ends)⟩

/-- A run faults because of one of its views. -/
theorem explains_of_runOn (accepted : settings.Accepted) {cause : Fault}
    (faulted : (runOn encoder settings options start).1 = .error (.fault cause)) :
    Exists fun view => view ∈ views settings options ∧ view.Explains cause := by
  rcases ofSize_window settings.window.viewport with ⟨-, surface, drawable, -⟩ | ⟨large, refused⟩
  · by_cases prepared : Prepared options start
    · rcases runOn_cases accepted prepared with ⟨outcome, writes, ran, ends⟩
      rw [ran] at faulted
      cases faulted
      rcases ends with ⟨_, ⟨⟩, opens | ⟨first, opens, drawn⟩⟩ | ⟨_, _, ⟨⟩, -⟩ | ⟨_, _, -, -, -, ⟨⟩, -⟩
      · rcases opening_ok accepted options drawable with ⟨field, clock, -, -, opened, -⟩
        cases opened.symm.trans opens
      · rcases (stays_of_opening accepted opens).1.refreshed options.frames.toNat with
          ⟨view, member, _, same, explains⟩ | ⟨last, reached, -⟩
        · cases same.symm.trans drawn
          exact ⟨view, member, explains⟩
        · cases reached.symm.trans drawn
    · rcases runOn_of_unprepared encoder drawable prepared with ⟨failure, failed⟩
      cases failed.symm.trans faulted
  · rw [runOn_of_refused refused] at faulted
    cases faulted
    exact ⟨settings.window.viewport, List.mem_cons_self, large⟩

/-- A frame of a run is drawn in this view. -/
def DrawsIn (settings : Settings) (options : HeadlessOptions) (index : ℕ) (view : Viewport) : Prop :=
  Exists fun first => Exists fun moment =>
    (opening settings options).run = .ok (.ok first) ∧ refreshed first index = .ok moment ∧
    moment.DrawsIn view

/-- An animation that comes to draw in a view without room faults. -/
theorem DrawsIn.refreshed_error (accepted : settings.Accepted) {index count : ℕ} {view : Viewport}
    (draws : DrawsIn settings options index view) (large : UInt32.size ≤ view.physicalSize.area)
    (drawn : index < count) : Exists fun first =>
      (opening settings options).run = .ok (.ok first) ∧
      refreshed first count = .error .areaOverflow := by
  rcases draws with ⟨first, moment, opens, reached, draws⟩
  refine ⟨first, opens, ?_⟩
  have next : refreshed first (index + 1) = .error .areaOverflow := by
    rcases (stays_of_opening accepted opens).1.refreshed index with
      ⟨_, -, cause, faulted, -⟩ | ⟨same, again, stays⟩
    · cases reached.symm.trans faulted
    · cases reached.symm.trans again
      rw [refreshed, reached]
      exact stays.refresh_error draws large
  rw [← Nat.add_sub_of_le drawn]
  exact Headless.refreshed_error next (count - (index + 1))

/-- With accepted settings a run on any disk, with any encoder, faults because of one
of its views only: there is no room for it, or it does not clip down.  So a run with
safe views never faults.  Without room for the window a run faults at once, and
without room for a later view it faults when it comes to draw in it, if it was not
refused before. -/
theorem runOn_faults_by_views (accepted : settings.Accepted) (encoder : Png.Encoder)
    (options : HeadlessOptions) (start : disk) :
    (forall cause, (runOn encoder settings options start).1 = .error (.fault cause) ->
      Exists fun view => view ∈ views settings options ∧ view.Explains cause) ∧
    ((forall view, view ∈ views settings options -> view.IsSafe) ->
      forall cause, (runOn encoder settings options start).1 ≠ .error (.fault cause)) ∧
    (UInt32.size ≤ settings.window.viewport.physicalSize.area ->
      runOn encoder settings options start = (.error (.fault .areaOverflow), [])) ∧
    forall (index : ℕ) (view : Viewport), index < options.frames.toNat ->
      DrawsIn settings options index view -> UInt32.size ≤ view.physicalSize.area ->
      Undisturbed encoder options start (runOn encoder settings options start).2 ->
      (runOn encoder settings options start).1 = .error (.fault .areaOverflow) := by
  refine ⟨fun cause faulted => explains_of_runOn accepted faulted, fun safe cause faulted => ?_,
    fun large => ?_, fun index view drawn draws large undisturbed => ?_⟩
  · rcases explains_of_runOn accepted faulted with ⟨view, member, explains⟩
    exact (safe view member).not_explains cause explains
  · rcases ofSize_window settings.window.viewport with ⟨room, -⟩ | ⟨-, refused⟩
    · cases not_le.mpr room large
    · exact runOn_of_refused refused
  · rcases draws.refreshed_error accepted large drawn with ⟨first, opens, faulted⟩
    rcases runOn_cases accepted undisturbed.prepared with ⟨outcome, writes, ran, ends⟩
    rw [ran] at undisturbed ⊢
    rcases ends with ⟨cause, same, opening | ⟨other, again, later⟩⟩ |
      ⟨cause, other, -, again, refused⟩ | ⟨other, last, again, later, -⟩
    · cases opens.symm.trans opening
    · cases opens.symm.trans again
      cases faulted.symm.trans later
      exact same
    · cases undisturbed.not_refused (isSound_of_opening accepted again) cause refused
    · cases opens.symm.trans again
      cases faulted.symm.trans later

end Runs

/-! ## A window without room -/

/-- No stars and no nebulae, in a window of `2 ^ 32` pixels. -/
def hugeWindow : Settings where
  field := { layers := [], nebula := { count := 0 } }
  window := { width := 65536, height := 65536 }

/-- The view grows to `2 ^ 32` pixels in the first frame. -/
def hugeDrag : HeadlessOptions where
  frames := 1
  resize := some ⟨65536, 65536, 0, 1, 0⟩

theorem runOn_faults_by_views_emptySky :
    (forall cause, (runOn Png.Plain.encoder emptySky threeFrames ({} : FileTree)).1 ≠
      .error (.fault cause)) ∧
    (runOn Png.Plain.encoder hugeWindow {} ({} : FileTree)).1 = .error (.fault .areaOverflow) ∧
    (runOn Png.Plain.encoder emptySky hugeDrag ({} : FileTree)).1 = .error (.fault .areaOverflow) := by
  have accepted : emptySky.Accepted := (Settings.validate_eq_ok emptySky).mp rfl
  refine ⟨?_, ?_, ?_⟩
  · have safe : forall view, view ∈ views emptySky threeFrames -> view.IsSafe := by
      decide +kernel
    exact (runOn_faults_by_views accepted Png.Plain.encoder threeFrames ({} : FileTree)).2.1 safe
  · have large : UInt32.size ≤ hugeWindow.window.viewport.physicalSize.area := by decide +kernel
    have faulted := (runOn_faults_by_views ((Settings.validate_eq_ok hugeWindow).mp rfl)
      Png.Plain.encoder {} ({} : FileTree)).2.2.1 large
    exact congrArg Prod.fst faulted
  · have checked : ((opening emptySky hugeDrag).run.toOption.bind fun opened =>
        opened.toOption.bind fun first => first.scheduler.next.1.bind fun time =>
          (first.animator.takeUp time first.source).toOption.map fun taken =>
            (first.animator.running,
              decide (UInt32.size ≤ taken.2.1.field.viewport.physicalSize.area))) =
        some (true, true) := by
      decide +kernel
    have silent : (runOn Png.Plain.encoder emptySky hugeDrag ({} : FileTree)).2.isEmpty = true := by
      decide +kernel
    have undisturbed : Undisturbed Png.Plain.encoder hugeDrag ({} : FileTree)
        (runOn Png.Plain.encoder emptySky hugeDrag ({} : FileTree)).2 := by
      rw [List.isEmpty_iff.mp silent]
      exact ⟨Png.Plain.acceptsFull, nofun, nofun⟩
    rcases Option.bind_eq_some_iff.mp checked with ⟨opened, runs, checked⟩
    rcases Option.bind_eq_some_iff.mp checked with ⟨first, opens, checked⟩
    rcases Option.bind_eq_some_iff.mp checked with ⟨time, due, checked⟩
    rcases Option.map_eq_some_iff.mp checked with ⟨⟨applied, settled, rest⟩, takes, found⟩
    rcases Prod.mk.inj found with ⟨running, large⟩
    cases Outcome.toOption_eq_some.mp opens
    have draws : DrawsIn emptySky hugeDrag 0 settled.field.viewport :=
      ⟨first, first, Outcome.toOption_eq_some.mp runs, rfl, running, time, _, Prod.ext due rfl,
        applied, settled, rest, Outcome.toOption_eq_some.mp takes, rfl⟩
    exact (runOn_faults_by_views accepted Png.Plain.encoder hugeDrag ({} : FileTree)).2.2.2 0 _
      (by decide) draws (of_decide_eq_true large) undisturbed

/-- With a window of `2 ^ 32` pixels not even the first surface can be made. -/
theorem hugeWindow_faults : hugeWindow.validate = .ok () ∧
    runOn Png.Plain.encoder hugeWindow { frames := 0 } ({} : FileTree) =
      (.error (.fault .areaOverflow), []) := by
  have refused : PixelSurface.ofSize hugeWindow.window.viewport.physicalSize =
      .error .areaOverflow := by
    rcases ofSize_window hugeWindow.window.viewport with ⟨room, -⟩ | ⟨-, refused⟩
    · exact absurd room (by decide +kernel)
    · exact refused
  exact ⟨rfl, runOn_of_refused refused⟩

end Headless

end Starfield
