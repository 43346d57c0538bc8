import Starfield.Proofs.Files.Growth
import Starfield.Proofs.Settings.Stored

namespace Starfield

/-!
# What loading does to files

Settings that are there are only looked at.  Where there are none, directories
are made and the default settings are written; if this fails, nothing was
written.  Either way the next loading finds what this one left, so it comes to
the same settings and changes nothing.
-/

namespace FileTree

/-- Reading text only looks at a tree. -/
theorem readText_run (path : Path) (tree : FileTree) :
    ((FileSystem.readText (m := StateM FileTree) path).run tree).2 = tree := by
  have looks : (FileSystem.readBytes (m := StateM FileTree) path).run tree =
      (tree.readBytes path, tree) := rfl
  rw [FileSystem.readText, StateT.run_bind, looks]
  cases tree.readBytes path with
  | error cause => rfl
  | ok bytes =>
      dsimp only [bind, Id]
      cases String.fromUTF8? bytes <;> rfl

end FileTree

namespace Settings

variable {directory : Path} {before after tree : FileTree}

theorem read_run (directory : Path) (tree : FileTree) :
    ((read (m := StateM FileTree) directory).run tree).2 = tree := by
  rw [read, StateT.run_bind]
  have kept := FileTree.readText_run (directory.join fileName) tree
  generalize (FileSystem.readText (m := StateM FileTree) (directory.join fileName)).run tree = read
    at kept ⊢
  rcases read with ⟨result, looked⟩
  cases kept
  cases result with
  | error cause => rfl
  | ok text =>
      dsimp only [bind, Id]
      cases ofDocument? text <;> rfl

/-- Settings that are there are read, and nothing is changed. -/
theorem loadOrCreate_of_present (present : tree.isPresent (directory.join fileName) = true) :
    (loadOrCreate (m := StateM FileTree) directory).run tree =
      (((read (m := StateM FileTree) directory).run tree).1.bind accepted, tree) := by
  have kept := read_run directory tree
  change (if tree.isPresent (directory.join fileName) = true then _ else _ : StateM FileTree _).run
    tree = _
  rw [if_pos present]
  exact congrArg (_, ·) kept

/-- Settings are loaded from a text that is theirs if they are accepted. -/
theorem loadOrCreate_of_text {settings : Settings} {text : String}
    (valid : settings.validate = .ok ()) (said : ofDocument? text = some settings)
    (holds : tree.readBytes (directory.join fileName) = .ok text.toUTF8) :
    (loadOrCreate (m := StateM FileTree) directory).run tree = (.ok settings, tree) := by
  have present : tree.isPresent (directory.join fileName) = true := by
    rcases Outcome.bind_eq_ok.mp holds with ⟨entry, found, -⟩
    exact FileTree.isPresent_eq_true.mpr ⟨entry, found⟩
  have read : ((read (m := StateM FileTree) directory).run tree).1 = .ok settings :=
    congrArg Prod.fst (read_of_text said (congrArg (·, tree) holds))
  rw [loadOrCreate_of_present present, read]
  change (accepted settings, tree) = _
  rw [accepted_of_valid valid]

/-- Settings that are there and are accepted are loaded. -/
theorem loadOrCreate_of_document {settings : Settings} (valid : settings.validate = .ok ())
    (holds : tree.readBytes (directory.join fileName) = .ok settings.document.toUTF8) :
    (loadOrCreate (m := StateM FileTree) directory).run tree = (.ok settings, tree) :=
  loadOrCreate_of_text valid (ofDocument?_document settings) holds

/-- Where there are no settings the default settings are saved. -/
theorem loadOrCreate_of_absent (absent : tree.isPresent (directory.join fileName) = false) :
    (loadOrCreate (m := StateM FileTree) directory).run tree =
      Prod.map (fun saved => saved.map fun _ => {}) id
        ((save (m := StateM FileTree) {} directory).run tree) := by
  change (if tree.isPresent (directory.join fileName) = true then _ else _ : StateM FileTree _).run
    tree = _
  rw [absent, if_neg Bool.false_ne_true]
  rfl

/-- Saving makes directories, and then it writes the document.  It fails only if
one of these cannot be done. -/
theorem save_cases (settings : Settings) (directory : Path) (tree : FileTree) :
    Exists fun result => Exists fun made =>
      (FileSystem.makeDirectories (m := StateM FileTree) directory).run tree = (result, made) ∧
      FileTree.Gains tree made ∧
      ((Exists fun cause => (settings.save (m := StateM FileTree) directory).run tree =
          (.error (.write cause), made) ∧
          (result = .error cause ∨ made.locateNew (directory.join fileName) = .error cause)) ∨
        (result = .ok () ∧ Exists fun location =>
          made.locateNew (directory.join fileName) = .ok location ∧
          (settings.save (m := StateM FileTree) directory).run tree =
            (.ok (), made.put location (.file settings.document.toUTF8)))) := by
  have gains := FileTree.Gains.within.makeDirectories directory tree
  rw [save, StateT.run_bind]
  generalize (FileSystem.makeDirectories (m := StateM FileTree) directory).run tree = result
    at gains ⊢
  rcases result with ⟨result, made⟩
  refine ⟨result, made, rfl, gains, ?_⟩
  cases result with
  | error cause => exact Or.inl ⟨cause, rfl, Or.inl rfl⟩
  | ok _ =>
      let writes := (FileTree.change (·.writeBytes (directory.join fileName)
        settings.document.toUTF8)).run made
      change (Exists fun cause => Prod.map (Except.mapError SettingsError.write) id writes = _ ∧ _) ∨
        (_ ∧ Exists fun location => _ ∧
          Prod.map (Except.mapError SettingsError.write) id writes = _)
      have wrote : writes = _ := FileTree.run_change _ made
      rw [wrote, FileTree.writeBytes]
      cases made.locateNew (directory.join fileName) with
      | error cause => exact Or.inl ⟨cause, rfl, Or.inr rfl⟩
      | ok location => exact Or.inr ⟨rfl, location, rfl, rfl⟩

/-- In a directory that is there the settings are written at once. -/
theorem save_cases_of_isDirectory (settings : Settings)
    (there : directory.text = "" ∨ tree.isDirectory directory = true) :
    (Exists fun cause => (settings.save (m := StateM FileTree) directory).run tree =
      (.error (.write cause), tree)) ∨
      Exists fun location => tree.locateNew (directory.join fileName) = .ok location ∧
        (settings.save (m := StateM FileTree) directory).run tree =
          (.ok (), tree.put location (.file settings.document.toUTF8)) := by
  have settled : (FileSystem.makeDirectories (m := StateM FileTree) directory).run tree =
      (.ok (), tree) := by
    rcases there with empty | there
    · rw [FileSystem.makeDirectories, if_pos empty]
      rfl
    · exact FileTree.makeDirectories_of_isDirectory there
  rcases settings.save_cases directory tree with ⟨result, made, ran, -, saved⟩
  cases settled.symm.trans ran
  rcases saved with ⟨cause, failed, -⟩ | ⟨-, wrote⟩
  · exact Or.inl ⟨cause, failed⟩
  · exact Or.inr wrote

/-- The default settings are accepted. -/
theorem validate_default : ({} : Settings).validate = .ok () :=
  rfl

/-- Settings are accepted only when they are valid. -/
theorem of_accepted {settings result : Settings} (accepts : settings.accepted = .ok result) :
    result = settings ∧ settings.validate = .ok () := by
  rcases Outcome.bind_eq_ok.mp accepts with ⟨⟨⟩, valid, done⟩
  cases done
  exact ⟨rfl, valid⟩

/-- Without a file directories are made, and then the default settings are
written or nothing is. -/
theorem loadOrCreate_absent_cases (absent : tree.isPresent (directory.join fileName) = false) :
    Exists fun result => Exists fun made =>
      (FileSystem.makeDirectories (m := StateM FileTree) directory).run tree = (result, made) ∧
      FileTree.Gains tree made ∧
      ((Exists fun cause => (loadOrCreate (m := StateM FileTree) directory).run tree =
          (.error (.write cause), made) ∧
          (result = .error cause ∨ made.locateNew (directory.join fileName) = .error cause)) ∨
        Exists fun location => made.locateNew (directory.join fileName) = .ok location ∧
          (loadOrCreate (m := StateM FileTree) directory).run tree =
            (.ok {}, made.put location (.file ({} : Settings).document.toUTF8))) := by
  rcases ({} : Settings).save_cases directory tree with ⟨result, made, makes, gains, saved⟩
  refine ⟨result, made, makes, gains, ?_⟩
  rw [loadOrCreate_of_absent absent]
  rcases saved with ⟨cause, ran, reason⟩ | ⟨-, location, located, ran⟩
  · exact Or.inl ⟨cause, by rw [ran]; rfl, reason⟩
  · exact Or.inr ⟨location, located, by rw [ran]; rfl⟩

/-- Only accepted settings are loaded, and afterwards they are there to be
read. -/
theorem read_of_loadOrCreate {settings : Settings}
    (loaded : (loadOrCreate (m := StateM FileTree) directory).run before = (.ok settings, after)) :
    settings.validate = .ok () ∧ after.isPresent (directory.join fileName) = true ∧
      (read (m := StateM FileTree) directory).run after = (.ok settings, after) := by
  cases present : before.isPresent (directory.join fileName) with
  | true =>
      rw [loadOrCreate_of_present present] at loaded
      rcases Prod.mk.inj loaded with ⟨taken, rfl⟩
      rcases Outcome.bind_eq_ok.mp taken with ⟨stored, holds, accepts⟩
      rcases of_accepted accepts with ⟨rfl, valid⟩
      exact ⟨valid, present, Prod.ext holds (read_run directory before)⟩
  | false =>
      rw [loadOrCreate_of_absent present] at loaded
      rcases saved : (save (m := StateM FileTree) {} directory).run before with ⟨result, last⟩
      rw [saved] at loaded
      rcases Prod.mk.inj loaded with ⟨created, rfl⟩
      cases result with
      | error cause => cases created
      | ok _ =>
          cases created
          rcases wrote_of_save saved with ⟨made, wrote⟩
          rcases FileTree.readsBack.present wrote with ⟨looked, there, final, holds⟩
          rcases Prod.mk.inj there with ⟨found, rfl⟩
          rcases Prod.mk.inj holds with ⟨_, rfl⟩
          exact ⟨validate_default, found, read_of_readBytes holds⟩

/-- Loading again comes to the same settings and changes nothing. -/
theorem loadOrCreate_again {settings : Settings}
    (loaded : (loadOrCreate (m := StateM FileTree) directory).run before = (.ok settings, after)) :
    settings.validate = .ok () ∧
      (loadOrCreate (m := StateM FileTree) directory).run after = (.ok settings, after) := by
  rcases read_of_loadOrCreate loaded with ⟨valid, present, holds⟩
  refine ⟨valid, ?_⟩
  rw [loadOrCreate_of_present present, holds]
  change (accepted settings, after) = _
  rw [accepted_of_valid valid]

end Settings

end Starfield
