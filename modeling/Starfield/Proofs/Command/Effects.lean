import Starfield.Command.Program
import Starfield.Proofs.Animation.Sessions
import Starfield.Proofs.Files.Effects

namespace Starfield

/-!
# What a run of the program does to a disk

A run looks at files, makes directories, and writes images and a journal.  What
is kept by all this is kept by the whole run, however early it ends.
-/

namespace Session

variable {world α β : Type} {relation : world -> world -> Prop}

/-- Every course of the session leads to a state in relation with the one
before. -/
def Follows (relation : world -> world -> Prop) (session : Session (StateM world) α) : Prop :=
  forall notices, Leads relation (session.run.run notices)

namespace Follows

variable [IsPreorder world relation]

theorem pure (value : α) : Follows relation (Pure.pure value : Session (StateM world) α) :=
  fun _ => .pure _

theorem bind {session : Session (StateM world) α} {next : α -> Session (StateM world) β}
    (first : Follows relation session) (rest : forall value, Follows relation (next value)) :
    Follows relation (session >>= next) := by
  intro notices
  rw [ExceptT.run_bind, StateT.run_bind]
  refine (first notices).bind fun course => ?_
  rcases course with ⟨result, told⟩
  cases result with
  | error halt => exact .pure _
  | ok value => exact rest value told

/-- A session that only tells follows every relation. -/
theorem of_ends {session : Session (StateM world) α} {value : α}
    (quiet : forall before, Ends session before (.ok value) before) : Follows relation session := by
  intro notices before
  rcases quiet before notices with ⟨told, ran⟩
  rw [ran]
  exact Std.Refl.refl before

theorem tell (level : Level) (target : Target) (message : String) :
    Follows relation (Session.tell level target message : Session (StateM world) Unit) :=
  of_ends fun before => .tell level target message before

theorem step (result : Except Fault α) :
    Follows relation (Session.step result : Session (StateM world) α) := by
  cases result <;> exact fun _ => .pure _

theorem attempt {ε : Type} (wrap : ε -> RunError) (result : Except ε α) :
    Follows relation (Session.attempt wrap result : Session (StateM world) α) := by
  cases result <;> exact fun _ => .pure _

theorem onFiles (wrap : FileError -> RunError) {operation : StateM world (Except FileError α)}
    (leads : Leads relation operation) : Follows relation (onFiles wrap operation) :=
  bind (fun notices => leads.bind fun result =>
    Leads.pure (Except.ok (ε := Halt) result, notices)) (attempt wrap)

theorem option_forM {γ : Type} {act : γ -> Session (StateM world) Unit}
    (each : forall item, Follows relation (act item)) (item? : Option γ) :
    Follows relation (item?.forM act) := by
  cases item? with
  | none => exact pure ()
  | some item => exact each item

end Follows

end Session

open Session (Follows)

section Disk

variable {disk : Type} [FileSystem (StateM disk)] {relation : disk -> disk -> Prop}
  [IsPreorder disk relation] {writable : Path -> Prop}
  (within : FileSystem.Within relation writable) (encoder : Png.Encoder)

namespace PixelSurface

include within

theorem follows_writePng (surface : PixelSurface) {path : Path} (chosen : writable path) :
    Follows relation (surface.writePng (m := StateM disk) encoder path) :=
  (Follows.attempt _ _).bind fun file =>
    (Follows.onFiles _ (within.writeBytes file chosen)).bind fun _ => .tell _ _ _

end PixelSurface

namespace Headless

variable (images : forall (directory : Path) (index : ℕ),
  writable (directory.join (captureName index)))

include within images

theorem follows_capture (options : HeadlessOptions) (index : ℕ) (state : State) :
    Follows relation (capture (m := StateM disk) encoder options index state) := by
  unfold capture
  cases options.outputDirectory with
  | none => exact .pure _
  | some directory =>
      dsimp only
      split_ifs
      · exact (PixelSurface.follows_writePng within encoder state.animator.surface
          (images directory index)).bind fun _ => .pure _
      · exact .pure _

theorem follows_frames (settings : Settings) (options : HeadlessOptions) (index count : ℕ)
    (state : State) :
    Follows relation (frames (m := StateM disk) encoder settings options index count state) := by
  induction count generalizing index state with
  | zero => exact .pure _
  | succ count ih =>
      unfold frames
      rcases state.clock.next with ⟨due | time, clock⟩
      · exact .pure _
      dsimp only
      split_ifs
      · exact .pure _
      · refine (Follows.step _).bind fun taken => ?_
        rcases taken with ⟨applied, settled, rest⟩
        refine (Follows.of_ends fun before =>
          .option_forM (settled.ends_tellApplied before) applied).bind fun _ => ?_
        refine (Follows.of_ends fun before => settled.ends_tellFitting before).bind fun _ => ?_
        refine (Follows.step _).bind fun presented => ?_
        rcases presented with ⟨fresh, counted⟩
        refine (Follows.of_ends fun before =>
          .option_forM (counted.ends_tellFps before _) fresh).bind fun _ => ?_
        exact (follows_capture within encoder images options index _).bind fun next => ih (index + 1) next

theorem follows_run (settings : Settings) (options : HeadlessOptions) :
    Follows relation (run (m := StateM disk) encoder settings options) := by
  unfold run
  refine (Follows.step _).bind fun surface => ?_
  refine (Follows.option_forM (fun directory =>
    .onFiles _ (within.makeDirectories directory)) _).bind fun _ => ?_
  refine (Follows.step _).bind fun started => (Follows.attempt _ _).bind fun launched => ?_
  rcases launched with ⟨animator, clock⟩
  refine (Follows.of_ends animator.ends_tellStart).bind fun _ => ?_
  refine (follows_frames within encoder images settings options 0 _ _).bind fun state => ?_
  exact (Follows.tell _ _ _).bind fun _ => (Follows.tell _ _ _).bind fun _ => .pure _

end Headless

/-! ## The journal -/

namespace Journal

/-- A journal is kept in a file that may be written. -/
def IsWritable (writable : Path -> Prop) (journal : Journal) : Prop :=
  forall file, file ∈ journal.file -> writable file

include within

theorem leads_keep {journal : Journal} (kept : journal.IsWritable writable) (notices : List Notice) :
    Leads relation (journal.keep (m := StateM disk) notices) := by
  unfold keep
  cases file : journal.file with
  | none => exact .pure _
  | some path => exact (within.writeBytes _ (kept path file)).bind fun _ => .pure _

variable (logs : forall directory : Path, writable (directory.join fileName))

include logs

/-- Whatever a journal is begun for, its file may be written. -/
theorem leads_begin {β : Type} (filter : Filter) (directory : Path)
    {next : Journal -> StateM disk β}
    (rest : forall journal, journal.IsWritable writable -> Leads relation (next journal)) :
    Leads relation (begin filter directory >>= next) := by
  have absent : IsWritable writable ⟨filter, none⟩ := nofun
  have kept : IsWritable writable ⟨filter, some (directory.join fileName)⟩ := by
    rintro _ ⟨⟩
    exact logs directory
  unfold begin
  rw [bind_assoc]
  refine (within.makeDirectories directory).bind fun result => ?_
  cases result with
  | error cause => exact rest _ absent
  | ok _ =>
      dsimp only
      rw [bind_assoc]
      refine (within.writeBytes _ (logs directory)).bind fun wrote => ?_
      cases wrote with
      | error cause => exact rest _ absent
      | ok _ => exact rest _ kept

end Journal

namespace Request

include within

theorem leads_perform (images : forall (directory : Path) (index : ℕ),
      writable (directory.join (captureName index)))
    (logs : forall directory : Path, writable (directory.join Journal.fileName))
    (request : Request) (filter : Filter) (reports : List String) (directories : Directories)
    (settings : Settings) :
    Leads relation (request.perform (m := StateM disk) encoder filter reports directories settings) := by
  have animates : Follows relation
      (request.animate (m := StateM disk) encoder directories settings) :=
    (Follows.tell _ _ _).bind fun _ => Headless.follows_run within encoder images settings _
  refine Journal.leads_begin within logs filter _ fun journal kept => ?_
  refine (animates #[]).bind fun course => ?_
  rcases course with ⟨result, notices⟩
  cases result with
  | ok stats => exact (Journal.leads_keep within kept _).bind fun _ => .pure _
  | error halt => exact (Journal.leads_keep within kept _).bind fun _ => .pure _

end Request

end Disk

end Starfield
