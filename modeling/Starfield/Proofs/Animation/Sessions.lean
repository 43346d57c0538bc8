import Starfield.Animation.Session
import Starfield.Files.FileSystem
import Starfield.Proofs.Outcome

namespace Starfield

/-!
# Sessions on a state

Sessions tell notices, but nothing they do depends on what was told.  So a
session on a state comes to one outcome and leaves one state behind, whatever
was told before it.  The rules here follow a session step by step; telling is a
step that changes nothing.

What a session writes is seen by letting a disk keep the list of all writes.
-/

namespace Session

variable {world α β : Type} {before between after : world} {result : Except Halt β}

/-- The session comes to an outcome and leaves a state behind. -/
def Ends (session : Session (StateM world) α) (before : world) (outcome : Except Halt α)
    (after : world) : Prop :=
  forall notices, Exists fun told =>
    (session.run.run notices).run before = ((outcome, told), after)

namespace Ends

variable {session : Session (StateM world) α} {next : α -> Session (StateM world) β} {value : α}

theorem pure (value : α) (before : world) :
    Ends (Pure.pure value : Session (StateM world) α) before (.ok value) before :=
  fun notices => ⟨notices, rfl⟩

theorem tell (level : Level) (target : Target) (message : String) (before : world) :
    Ends (Session.tell level target message) before (.ok ()) before :=
  fun _ => ⟨_, rfl⟩

theorem bind (first : Ends session before (.ok value) between)
    (rest : Ends (next value) between result after) :
    Ends (session >>= next) before result after := by
  intro notices
  rcases first notices with ⟨told, ran⟩
  rcases rest told with ⟨last, ranRest⟩
  refine ⟨last, ?_⟩
  rw [ExceptT.run_bind, StateT.run_bind, StateT.run_bind, ran]
  exact ranRest

theorem bind_error {cause : Halt} (first : Ends session before (.error cause) after) :
    Ends (session >>= next) before (.error cause) after := by
  intro notices
  rcases first notices with ⟨told, ran⟩
  refine ⟨told, ?_⟩
  rw [ExceptT.run_bind, StateT.run_bind, StateT.run_bind, ran]
  rfl

theorem step_ok (before : world) : Ends (Session.step (.ok value)) before (.ok value) before :=
  pure value before

theorem step_error (cause : Fault) (before : world) :
    Ends (Session.step (.error cause : Except Fault α)) before (.error (.fault cause)) before :=
  fun notices => ⟨notices, rfl⟩

theorem attempt_ok {ε : Type} {wrap : ε -> RunError} {attempted : Except ε α}
    (succeeded : attempted = .ok value) (before : world) :
    Ends (attempt wrap attempted) before (.ok value) before := by
  rw [succeeded]
  exact pure value before

theorem attempt_error {ε : Type} {wrap : ε -> RunError} {attempted : Except ε α} {cause : ε}
    (refused : attempted = .error cause) (before : world) :
    Ends (attempt wrap attempted) before (.error (.error (wrap cause))) before := by
  rw [refused]
  exact fun notices => ⟨notices, rfl⟩

/-- Work on the state alone tells nothing. -/
theorem lift {operation : StateM world α} (ran : operation.run before = (value, after)) :
    Ends (liftM operation : Session (StateM world) α) before (.ok value) after := by
  intro notices
  refine ⟨notices, ?_⟩
  change (match operation.run before with
    | (found, next) => ((Except.ok found, notices), next)) = _
  rw [ran]

theorem onFiles_ok {wrap : FileError -> RunError}
    {operation : StateM world (Except FileError α)} (ran : operation.run before = (.ok value, after)) :
    Ends (onFiles wrap operation) before (.ok value) after :=
  (lift ran).bind (attempt_ok rfl after)

theorem onFiles_error {wrap : FileError -> RunError} {cause : FileError}
    {operation : StateM world (Except FileError α)}
    (ran : operation.run before = (.error cause, after)) :
    Ends (onFiles wrap operation) before (.error (.error (wrap cause))) after :=
  (lift ran).bind (attempt_error rfl after)

theorem option_forM {γ : Type} {act : γ -> Session (StateM world) Unit}
    (each : forall item, Ends (act item) before (.ok ()) before) (item? : Option γ) :
    Ends (item?.forM act) before (.ok ()) before := by
  cases item? with
  | none => exact pure () before
  | some item => exact each item

end Ends

end Session

/-! ## What an animation tells -/

namespace Animator

open Session (Ends)

variable {σ world : Type} (animator : Animator σ) (before : world)

theorem ends_tellLayout : Ends animator.tellLayout before (.ok ()) before :=
  .tell _ _ _ before

theorem ends_tellStart : Ends animator.tellStart before (.ok ()) before :=
  (ends_tellLayout animator before).bind (.tell _ _ _ before)

theorem ends_tellApplied (event : ResizeEvent) :
    Ends (animator.tellApplied event) before (.ok ()) before :=
  (ends_tellLayout animator before).bind (.tell _ _ _ before)

theorem ends_tellFitting [Surface σ] : Ends animator.tellFitting before (.ok ()) before :=
  .option_forM (fun _ => .tell _ _ _ before) _

theorem ends_tellFps (showFps : Bool) (fps : Float) :
    Ends (animator.tellFps showFps fps) before (.ok ()) before := by
  unfold tellFps
  dsimp only
  split_ifs <;> exact .tell _ _ _ before

end Animator

/-! ## Disks that keep a list of what is written -/

/-- An attempt to write a file. -/
structure FileWrite where
  path : Path
  content : ByteArray
  result : Except FileError Unit

/-- A disk and all that was written to it, in order. -/
structure LoggedDisk (disk : Type) where
  disk : disk
  writes : List FileWrite := []

namespace LoggedDisk

variable {disk : Type}

/-- Work on the disk that writes no file. -/
def quietly {α : Type} (operation : StateM disk α) : StateM (LoggedDisk disk) α :=
  fun logged => ((operation.run logged.disk).1, { logged with disk := (operation.run logged.disk).2 })

theorem quietly_bind {α β : Type} (operation : StateM disk α) (next : α -> StateM disk β) :
    quietly (operation >>= next) = quietly operation >>= fun value => quietly (next value) :=
  rfl

instance [FileSystem (StateM disk)] : FileSystem (StateM (LoggedDisk disk)) where
  isPresent path := quietly (FileSystem.isPresent path)
  isDirectory path := quietly (FileSystem.isDirectory path)
  readBytes path := quietly (FileSystem.readBytes path)
  writeBytes path content logged :=
    let (result, next) := (FileSystem.writeBytes path content : StateM disk _).run logged.disk
    (result, ⟨next, logged.writes ++ [⟨path, content, result⟩]⟩)
  makeDirectory path := quietly (FileSystem.makeDirectory path)

variable [FileSystem (StateM disk)]

theorem writeBytes_run (path : Path) (content : ByteArray) (before : LoggedDisk disk) :
    (FileSystem.writeBytes (m := StateM (LoggedDisk disk)) path content).run before =
      let written := (FileSystem.writeBytes (m := StateM disk) path content).run before.disk
      (written.1, ⟨written.2, before.writes ++ [⟨path, content, written.1⟩]⟩) :=
  rfl

theorem settle_eq (path : Path) (result : Except FileError Unit) :
    FileSystem.settle (m := StateM (LoggedDisk disk)) path result =
      quietly (FileSystem.settle path result) := by
  cases result <;> rfl

theorem makeChain_eq (paths : List Path) :
    FileSystem.makeChain (m := StateM (LoggedDisk disk)) paths =
      quietly (FileSystem.makeChain paths) := by
  induction paths with
  | nil => rfl
  | cons path parents ih =>
      unfold FileSystem.makeChain
      rw [quietly_bind]
      refine congrArg _ (funext fun result => ?_)
      cases result with
      | ok _ => exact settle_eq path _
      | error cause =>
          cases cause with
          | notFound =>
              dsimp only
              rw [quietly_bind, ih]
              refine congrArg _ (funext fun created => ?_)
              cases created with
              | error cause => rfl
              | ok _ =>
                  dsimp only
                  rw [quietly_bind]
                  refine congrArg _ (funext fun last => ?_)
                  exact settle_eq path last
          | _ => exact settle_eq path _

/-- Creating directories writes no file. -/
theorem makeDirectories_eq (path : Path) :
    FileSystem.makeDirectories (m := StateM (LoggedDisk disk)) path =
      quietly (FileSystem.makeDirectories path) := by
  unfold FileSystem.makeDirectories
  split_ifs
  · rfl
  · exact makeChain_eq path.ancestors

end LoggedDisk

end Starfield
