import Starfield.Proofs.Files.ReadBack
import Starfield.Proofs.Settings.Codec
import Starfield.Settings.Store

namespace Starfield

/-!
# Settings loaded as they were saved

Saving writes the document of the settings, whatever the settings are.  A file
system that keeps its files gives the text of the document back, and the text
says the settings.  Loading validates what it reads, so only settings that are
accepted are loaded again.
-/

namespace Settings

variable {disk : Type} [FileSystem (StateM disk)]

/-- Saving that succeeds ends with writing the document. -/
theorem wrote_of_save {settings : Settings} {directory : Path} {before saved : disk}
    (succeeded : (settings.save (m := StateM disk) directory).run before = (.ok (), saved)) :
    Exists fun made => (FileSystem.writeBytes (m := StateM disk) (directory.join fileName)
      settings.document.toUTF8).run made = (.ok (), saved) := by
  rw [save, StateT.run_bind] at succeeded
  generalize (FileSystem.makeDirectories (m := StateM disk) directory).run before = result
    at succeeded
  rcases result with ⟨outcome, made⟩
  cases outcome with
  | error cause => cases (Prod.mk.inj succeeded).1
  | ok _ =>
      refine ⟨made, ?_⟩
      change ((FileSystem.writeBytes (m := StateM disk) (directory.join fileName)
        settings.document.toUTF8).run made).map (Except.mapError SettingsError.write) id = _
        at succeeded
      generalize (FileSystem.writeBytes (m := StateM disk) (directory.join fileName)
        settings.document.toUTF8).run made = result at succeeded ⊢
      rcases result with ⟨outcome, last⟩
      cases outcome with
      | error cause => cases (Prod.mk.inj succeeded).1
      | ok _ =>
          rw [← (Prod.mk.inj succeeded).2]
          rfl

/-- Settings are read from a file with a text that is theirs. -/
theorem read_of_text {settings : Settings} {text : String} (said : ofDocument? text = some settings)
    {directory : Path} {before after : disk}
    (holds : (FileSystem.readBytes (m := StateM disk) (directory.join fileName)).run before =
      (.ok text.toUTF8, after)) :
    (read (m := StateM disk) directory).run before = (.ok settings, after) := by
  rw [read, StateT.run_bind, FileSystem.readText_of_readBytes holds]
  dsimp only [bind, Id]
  rw [said]
  rfl

/-- Settings are read from a file that holds their document. -/
theorem read_of_readBytes {settings : Settings} {directory : Path} {before after : disk}
    (holds : (FileSystem.readBytes (m := StateM disk) (directory.join fileName)).run before =
      (.ok settings.document.toUTF8, after)) :
    (read (m := StateM disk) directory).run before = (.ok settings, after) :=
  read_of_text (ofDocument?_document settings) holds

theorem accepted_of_valid {settings : Settings} (valid : settings.validate = .ok ()) :
    accepted settings = .ok settings := by
  rw [accepted, valid]
  rfl

/-- Accepted settings that were saved are loaded as they were, every number with
its very bits. -/
theorem loadOrCreate_of_save (keeps : FileSystem.ReadsBack disk) {settings : Settings}
    (valid : settings.validate = .ok ()) {directory : Path} {before saved : disk}
    (succeeded : (settings.save (m := StateM disk) directory).run before = (.ok (), saved)) :
    Exists fun after =>
      (loadOrCreate (m := StateM disk) directory).run saved = (.ok settings, after) := by
  rcases wrote_of_save succeeded with ⟨made, wrote⟩
  rcases keeps.present wrote with ⟨looked, present, after, holds⟩
  refine ⟨after, ?_⟩
  rw [loadOrCreate, StateT.run_bind, present]
  change ((read (m := StateM disk) directory).run looked).map (·.bind accepted) id = _
  rw [read_of_readBytes holds]
  change (accepted settings, after) = _
  rw [accepted_of_valid valid]

/-- A sky whose channels are undefined, less than zero and infinite. -/
def oddSky : Settings where
  field :=
    { background := ⟨.minusUndefined, .number Binary.undefined, .number (-0), .number (1 / 0)⟩ }

theorem loadOrCreate_oddSky :
    oddSky.validate = .ok () ∧
      Exists fun after => (loadOrCreate (m := StateM FileTree) ⟨"stars"⟩).run
        ((oddSky.save (m := StateM FileTree) ⟨"stars"⟩).run {}).2 = (.ok oddSky, after) := by
  have valid : oddSky.validate = .ok () := rfl
  have succeeded : (oddSky.save (m := StateM FileTree) ⟨"stars"⟩).run {} =
      (.ok (), ((oddSky.save (m := StateM FileTree) ⟨"stars"⟩).run {}).2) := rfl
  exact ⟨valid, loadOrCreate_of_save FileTree.readsBack valid succeeded⟩

end Settings

end Starfield
