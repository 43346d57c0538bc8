import Starfield.Proofs.Command.Effects
import Starfield.Proofs.Files.Names
import Starfield.Proofs.Number.Numeral
import Starfield.Proofs.Settings.Loading

namespace Starfield

/-!
# Files with settings

A file with settings is written by nobody but the loading, and only with the
default settings where there was none.  The program makes its directories before
it loads, so it never has to make one to find out that the file was there after
all.  What else it writes has other names.  So whatever is asked of the program,
the overrides among it, no file with settings is changed.
-/

/-! ## Names of other files -/

theorem captureName_avoidsSettings (directory : Path) (index : ℕ) :
    (directory.join (captureName index)).AvoidsName Settings.fileName.text := by
  let digits := Layout.zeros (5 - (Layout.digits index).length) ++ Layout.digits index
  let name := "frame_" ++ String.ofList digits ++ ".png"
  have letters : name.toList = "frame_".toList ++ digits ++ ".png".toList := by
    have spelled : (String.ofList digits).toList = digits := String.toList_ofList
    rw [String.toList_append, String.toList_append, spelled]
  refine directory.avoidsName_join name ?_ ?_
  · rw [letters]
    simp only [List.mem_append, not_or]
    refine ⟨⟨by decide, fun member => ?_⟩, by decide⟩
    rcases List.mem_append.mp member with zero | digit
    · cases isDigit_of_mem_zeros zero
    · cases isDigit_of_mem_digits digit
  · have first : name.toList.head? = some 'f' := by
      rw [letters]
      rfl
    intro other
    simp only [List.mem_cons, List.not_mem_nil, or_false] at other
    rcases other with same | same | same | same <;> rw [same] at first <;> cases first

theorem journal_avoidsSettings (directory : Path) :
    (directory.join Journal.fileName).AvoidsName Settings.fileName.text :=
  directory.avoidsName_join _ (by decide) (by decide)

/-! ## Loading in a directory that is there -/

/-- Files with settings are those that there were, or hold the default
settings. -/
structure AddsDefaults (before after : FileTree) : Prop where
  kept {location : Location} {content : ByteArray}
    (named : location.getLast? = some Settings.fileName.text)
    (found : before.find? location = some (.file content)) :
    after.find? location = some (.file content)
  new {location : Location} {content : ByteArray}
    (named : location.getLast? = some Settings.fileName.text)
    (found : after.find? location = some (.file content)) :
    before.find? location = some (.file content) ∨ content = ({} : Settings).document.toUTF8

namespace AddsDefaults

variable {before after tree : FileTree}

instance : IsPreorder FileTree AddsDefaults where
  refl _ := ⟨fun _ => id, fun _ => Or.inl⟩
  trans _ _ _ early late :=
    { kept := fun named found => late.kept named (early.kept named found)
      new := fun named found => (late.new named found).elim (early.new named) Or.inr }

theorem of_keepsNamed (keeps : FileTree.KeepsNamed Settings.fileName.text before after) :
    AddsDefaults before after where
  kept named := (keeps _ _ named).mpr
  new named found := Or.inl ((keeps _ _ named).mp found)

theorem put {location : Location} (vacant : tree.find? location = none) :
    AddsDefaults tree (tree.put location (.file ({} : Settings).document.toUTF8)) where
  kept {other content} named found := by
    rw [FileTree.find?_put_of_ne _ _, found]
    rintro rfl
    cases vacant.symm.trans found
  new {other content} named found := by
    by_cases same : other = location
    · rw [same, FileTree.find?_put (FileTree.ne_root_of_vacant vacant)] at found
      exact Or.inr (FileEntry.file.inj (Option.some.inj found)).symm
    · rw [FileTree.find?_put_of_ne _ same] at found
      exact Or.inl found

/-- In a directory that is there nothing but a missing file is written. -/
theorem loadOrCreate {directory : Path}
    (there : directory.text = "" ∨ tree.isDirectory directory = true) :
    AddsDefaults tree ((Settings.loadOrCreate (m := StateM FileTree) directory).run tree).2 := by
  cases present : tree.isPresent (directory.join Settings.fileName) with
  | true =>
      rw [Settings.loadOrCreate_of_present present]
      exact Std.Refl.refl tree
  | false =>
      rw [Settings.loadOrCreate_of_absent present]
      rcases ({} : Settings).save_cases_of_isDirectory there with
        ⟨cause, failed⟩ | ⟨location, located, wrote⟩
      · rw [failed]
        exact Std.Refl.refl tree
      · rw [wrote]
        exact put (FileTree.vacant_of_locateNew present located)

end AddsDefaults

/-! ## The program -/

namespace Directories

/-- Directories that were created are there. -/
theorem of_create {directories : Directories} {before after : FileTree}
    (created : (directories.create (m := StateM FileTree)).run before = (.ok (), after)) :
    directories.config.text = "" ∨ after.isDirectory directories.config = true := by
  rw [create, StateT.run_bind] at created
  rcases made : (FileSystem.makeDirectories (m := StateM FileTree) directories.config).run before with
    ⟨result, middle⟩
  rw [made] at created
  cases result with
  | error cause => cases (Prod.mk.inj created).1
  | ok _ =>
      have gains := FileTree.Gains.within.makeDirectories directories.logs middle
      have last :
          ((FileSystem.makeDirectories (m := StateM FileTree) directories.logs).run middle).2 = after :=
        (Prod.mk.inj created).2
      rw [last] at gains
      exact (FileTree.isDirectory_of_makeDirectories made).imp_right gains.isDirectory

theorem leads_create {disk : Type} [FileSystem (StateM disk)] {relation : disk -> disk -> Prop}
    [IsPreorder disk relation] {writable : Path -> Prop}
    (within : FileSystem.Within relation writable) (directories : Directories) :
    Leads relation (directories.create (m := StateM disk)) := by
  refine (within.makeDirectories directories.config).bind fun result => ?_
  cases result with
  | error cause => exact .pure _
  | ok _ => exact (within.makeDirectories directories.logs).bind fun _ => .pure _

end Directories

/-- Whatever is asked of the program, it leaves files with settings as they are,
and new ones hold the default settings. -/
theorem Program.addsDefaults (encoder : Png.Encoder) (environment : Environment)
    (arguments : List String) (tree : FileTree) :
    AddsDefaults tree ((run (m := StateM FileTree) encoder environment arguments).run tree).2 := by
  have within : FileSystem.Within AddsDefaults (·.AvoidsName Settings.fileName.text) :=
    FileTree.KeepsNamed.within.mono .of_keepsNamed
      fun avoids => (FileTree.KeepsNamed.within.writeBytes _ avoids).mono .of_keepsNamed
  unfold run
  cases Request.ofArguments arguments with
  | error ending => exact Std.Refl.refl tree
  | ok request =>
      let directories := request.directories environment
      dsimp only
      rw [StateT.run_bind]
      have creates := directories.leads_create within tree
      rcases created : (directories.create (m := StateM FileTree)).run tree with ⟨result, made⟩
      rw [created] at creates
      cases result with
      | error cause => exact creates
      | ok _ =>
          have loads : AddsDefaults made
              ((request.settings (m := StateM FileTree) directories.config).run made).2 :=
            AddsDefaults.loadOrCreate (Directories.of_create created)
          refine IsTrans.trans _ _ _ creates ?_
          change AddsDefaults made ((request.settings (m := StateM FileTree) directories.config >>=
            fun settings => _).run made).2
          rw [StateT.run_bind]
          generalize (request.settings (m := StateM FileTree) directories.config).run made = course
            at loads ⊢
          rcases course with ⟨accepted, loaded⟩
          refine IsTrans.trans _ _ _ loads ?_
          cases accepted with
          | error cause => exact Std.Refl.refl loaded
          | ok settings =>
              dsimp only [bind, Id]
              cases Journal.filterFor environment settings.debug with
              | error fault => exact Std.Refl.refl loaded
              | ok chosen =>
                  exact request.leads_perform within encoder captureName_avoidsSettings
                    journal_avoidsSettings chosen.1 chosen.2 directories settings loaded

namespace Settings

/-- What is in a tree is there after loading, if the path does not go up. -/
theorem loadOrCreate_keeps {directory : Path} {tree after : FileTree}
    {outcome : Except SettingsError Settings} (closed : tree.IsClosed)
    (forward : ".." ∉ directory.pieces)
    (ran : (loadOrCreate (m := StateM FileTree) directory).run tree = (outcome, after))
    {location : Location} {entry : FileEntry} (found : tree.find? location = some entry) :
    after.find? location = some entry := by
  cases present : tree.isPresent (directory.join fileName) with
  | true =>
      rw [loadOrCreate_of_present present] at ran
      rw [← (Prod.mk.inj ran).2]
      exact found
  | false =>
      rcases loadOrCreate_absent_cases present with
        ⟨-, made, -, gains, ⟨cause, failed, -⟩ | ⟨place, located, wrote⟩⟩
      · rw [← (Prod.mk.inj (failed.symm.trans ran)).2]
        exact gains.kept found
      · have straight : ".." ∉ (directory.join fileName).pieces := by
          have pieces := directory.pieces_join fileName.text (by decide) (by decide)
          rw [pieces, List.mem_append, not_or]
          exact ⟨forward, by decide⟩
        have vacant := FileTree.vacant_of_gains closed gains straight present located
        rw [← (Prod.mk.inj (wrote.symm.trans ran)).2, FileTree.find?_put_of_ne, gains.kept found]
        rintro rfl
        cases vacant.symm.trans found

/-- Loading leaves a file that is there as it is, and finds the settings in it if
they are accepted.  Where there is none it makes directories and writes the default
settings; it writes nothing if one of these cannot be done.  If the path does not go
up, nothing that was there is lost in this.  Only accepted settings are loaded, and
loading again comes to the same settings and changes nothing.  The program writes no
file with settings otherwise. -/
theorem loadOrCreate_spares (directory : Path) (tree : FileTree) :
    Exists fun outcome => Exists fun after =>
      (loadOrCreate (m := StateM FileTree) directory).run tree = (outcome, after) ∧
      (tree.isPresent (directory.join fileName) = true -> after = tree) ∧
      (forall settings, settings.validate = .ok () ->
        tree.readBytes (directory.join fileName) = .ok settings.document.toUTF8 ->
        outcome = .ok settings) ∧
      (tree.isPresent (directory.join fileName) = false ->
        Exists fun result => Exists fun made =>
          (FileSystem.makeDirectories (m := StateM FileTree) directory).run tree = (result, made) ∧
          tree.Gains made ∧
          ((after = made ∧ Exists fun cause => outcome = .error (.write cause) ∧
              (result = .error cause ∨
                made.locateNew (directory.join fileName) = .error cause)) ∨
            (outcome = .ok {} ∧ Exists fun location =>
              made.locateNew (directory.join fileName) = .ok location ∧
              after = made.put location (.file ({} : Settings).document.toUTF8)))) ∧
      (tree.IsClosed -> ".." ∉ directory.pieces ->
        forall (location : Location) (entry : FileEntry),
          tree.find? location = some entry -> after.find? location = some entry) ∧
      (forall settings, outcome = .ok settings -> settings.validate = .ok () ∧
        (loadOrCreate (m := StateM FileTree) directory).run after = (.ok settings, after)) ∧
      forall encoder environment arguments,
        AddsDefaults tree
          ((Program.run (m := StateM FileTree) encoder environment arguments).run tree).2 := by
  rcases ran : (loadOrCreate (m := StateM FileTree) directory).run tree with ⟨outcome, after⟩
  refine ⟨outcome, after, rfl, ?_⟩
  have again (settings : Settings) (succeeded : outcome = .ok settings) :
      settings.validate = .ok () ∧
        (loadOrCreate (m := StateM FileTree) directory).run after = (.ok settings, after) := by
    subst succeeded
    exact loadOrCreate_again ran
  refine ⟨fun present => ?_, fun settings valid holds => ?_, fun absent => ?_,
    fun closed forward location entry found => ?_, again,
    fun encoder environment arguments => Program.addsDefaults encoder environment arguments tree⟩
  · rw [loadOrCreate_of_present present] at ran
    exact (Prod.mk.inj ran).2.symm
  · rw [loadOrCreate_of_document valid holds] at ran
    exact (Prod.mk.inj ran).1.symm
  · rcases loadOrCreate_absent_cases absent with
      ⟨result, made, makes, gains, ⟨cause, failed, reason⟩ | ⟨location, located, wrote⟩⟩
    · have same := Prod.mk.inj (failed.symm.trans ran)
      exact ⟨result, made, makes, gains, Or.inl ⟨same.2.symm, cause, same.1.symm, reason⟩⟩
    · have same := Prod.mk.inj (wrote.symm.trans ran)
      exact ⟨result, made, makes, gains, Or.inr ⟨same.1.symm, location, located, same.2.symm⟩⟩
  · exact loadOrCreate_keeps closed forward ran found

/-- A file that has nothing to do with settings. -/
def notes : FileTree :=
  { entries := [(["notes"], .file ⟨#[65]⟩)] }

/-- A directory with a file for settings. -/
def holding (content : ByteArray) : FileTree :=
  { entries := [(["stars"], .directory), (["stars", "config.ron"], .file content)] }

/-- A missing file is created beside others, one that holds no text is left as it
is, and one with settings is loaded. -/
theorem loadOrCreate_spares_stars :
    (Exists fun after =>
      (loadOrCreate (m := StateM FileTree) ⟨"stars"⟩).run notes = (.ok {}, after) ∧
      after.find? ["notes"] = some (.file ⟨#[65]⟩) ∧
      (Exists fun location =>
        after.find? location = some (.file ({} : Settings).document.toUTF8)) ∧
      (loadOrCreate (m := StateM FileTree) ⟨"stars"⟩).run after = (.ok {}, after)) ∧
    (Exists fun outcome => (loadOrCreate (m := StateM FileTree) ⟨"stars"⟩).run
      (holding ⟨#[255]⟩) = (outcome, holding ⟨#[255]⟩)) ∧
    Exists fun after => (loadOrCreate (m := StateM FileTree) ⟨"stars"⟩).run
      (holding oddSky.document.toUTF8) = (.ok oddSky, after) := by
  refine ⟨?_, ?_, ?_⟩
  · rcases loadOrCreate_spares ⟨"stars"⟩ notes with
      ⟨outcome, after, ran, -, -, created, kept, again, -⟩
    have loaded : outcome = .ok {} := by
      have first : ((loadOrCreate (m := StateM FileTree) ⟨"stars"⟩).run notes).1 = .ok {} := rfl
      rw [ran] at first
      exact first
    subst loaded
    have closed : notes.IsClosed := by
      intro parent name entry found
      by_cases same : parent ++ [name] = ["notes"]
      · rw [(List.append_eq_singleton_iff.mp same).resolve_right nofun |>.1]
        rfl
      · have away : notes.find? (parent ++ [name]) = none := by
          rw [FileTree.find?, if_neg (List.append_ne_nil_of_right_ne_nil _ (List.cons_ne_nil _ _)),
            notes, List.lookup_cons, beq_eq_false_iff_ne.mpr same]
          rfl
        cases away.symm.trans found
    refine ⟨after, ran, kept closed (by decide) _ _ rfl, ?_, (again {} rfl).2⟩
    rcases created (by decide +kernel) with
      ⟨-, made, -, -, ⟨-, _, failed, -⟩ | ⟨-, location, located, wrote⟩⟩
    · cases failed
    · have below : location ≠ [] := by
        rintro rfl
        exact (FileTree.of_locateNew located).2.2.2 rfl
      exact ⟨location, by rw [wrote, FileTree.find?_put below]⟩
  · rcases loadOrCreate_spares ⟨"stars"⟩ (holding ⟨#[255]⟩) with ⟨outcome, after, ran, kept, -⟩
    cases kept (by decide +kernel)
    exact ⟨outcome, ran⟩
  · rcases loadOrCreate_spares ⟨"stars"⟩ (holding oddSky.document.toUTF8) with
      ⟨outcome, after, ran, -, finds, -⟩
    cases finds oddSky rfl rfl
    exact ⟨after, ran⟩

end Settings

end Starfield
