import Starfield.Files.Tree
import Starfield.Proofs.Outcome

namespace Starfield

/-!
# Files that keep their content

What is asked of a file system is that a file which could be written is there
and holds what was written.  File trees are such file systems: following a path
only looks at directories, and no directory is changed by writing a file.
-/

namespace FileSystem

variable {disk : Type} [FileSystem (StateM disk)]

/-- Right after a file was written it is there and holds what was written. -/
structure ReadsBack (disk : Type) [FileSystem (StateM disk)] : Prop where
  present {path : Path} {content : ByteArray} {before after : disk}
    (wrote : (writeBytes (m := StateM disk) path content).run before = (.ok (), after)) :
    Exists fun looked => (isPresent (m := StateM disk) path).run after = (true, looked) ∧
      Exists fun last => (readBytes (m := StateM disk) path).run looked = (.ok content, last)

/-- Text is read as it was written. -/
theorem readText_of_readBytes {path : Path} {text : String} {before after : disk}
    (read : (readBytes (m := StateM disk) path).run before = (.ok text.toUTF8, after)) :
    (readText (m := StateM disk) path).run before = (.ok text, after) := by
  have decoded : String.fromUTF8? text.toUTF8 = some text := by
    rw [String.fromUTF8?, String.toUTF8_eq_toByteArray, dif_pos text.isValidUTF8]
    rfl
  rw [readText, StateT.run_bind, read]
  dsimp only [bind, Id]
  rw [decoded]
  rfl

end FileSystem

namespace FileTree

theorem lookup_putEntry (location : Location) (entry : FileEntry)
    (entries : List (Location × FileEntry)) :
    (putEntry location entry entries).lookup location = some entry := by
  induction entries with
  | nil => exact List.lookup_cons_self
  | cons first entries ih =>
      rcases first with ⟨other, old⟩
      rw [putEntry]
      split_ifs with same
      · exact List.lookup_cons_self
      · rw [List.lookup_cons, beq_eq_false_iff_ne.mpr same]
        exact ih

theorem lookup_putEntry_of_ne {location other : Location} (apart : other ≠ location)
    (entry : FileEntry) (entries : List (Location × FileEntry)) :
    (putEntry location entry entries).lookup other = entries.lookup other := by
  induction entries with
  | nil =>
      rw [putEntry, List.lookup_cons, beq_eq_false_iff_ne.mpr apart]
  | cons first entries ih =>
      rcases first with ⟨place, old⟩
      rw [putEntry]
      split_ifs with same
      · subst same
        rw [List.lookup_cons, List.lookup_cons, beq_eq_false_iff_ne.mpr apart]
      · rw [List.lookup_cons, List.lookup_cons, ih]

theorem find?_put {tree : FileTree} {location : Location} (below : location ≠ [])
    (entry : FileEntry) : (tree.put location entry).find? location = some entry := by
  rw [find?, if_neg below]
  exact lookup_putEntry location entry tree.entries

theorem find?_put_of_ne (tree : FileTree) {location other : Location} (apart : other ≠ location)
    (entry : FileEntry) : (tree.put location entry).find? other = tree.find? other := by
  unfold find?
  split_ifs with root
  · rfl
  · exact lookup_putEntry_of_ne apart entry tree.entries

/-- Only directories are followed. -/
theorem find?_of_follow {tree : FileTree} {here next : Location} {piece : String}
    (followed : tree.follow here piece = .ok next) : tree.find? here = some .directory := by
  unfold follow at followed
  split at followed
  · assumption
  · cases followed
  · cases followed

/-- A tree that keeps its directories is followed as before. -/
theorem foldlM_follow_mono {tree later : FileTree}
    (kept : forall place, tree.find? place = some .directory -> later.find? place = some .directory)
    {pieces : List String} {here there : Location}
    (followed : pieces.foldlM tree.follow here = .ok there) :
    pieces.foldlM later.follow here = .ok there := by
  induction pieces generalizing here with
  | nil => exact followed
  | cons piece pieces ih =>
      rw [List.foldlM_cons] at followed ⊢
      rcases Outcome.bind_eq_ok.mp followed with ⟨next, step, rest⟩
      have same : later.follow here piece = .ok next := by
        have directory := find?_of_follow step
        rw [← step]
        unfold follow
        rw [directory, kept here directory]
      rw [same]
      exact ih rest

/-- Where a file can be written there is no directory, and the path does not
ask for one. -/
theorem of_locateNew {tree : FileTree} {path : Path} {location : Location}
    (located : tree.locateNew path = .ok location) : path.text ≠ "" ∧ path.endsInSlash = false ∧
      tree.followAll path path.pieces = .ok location ∧ tree.find? location ≠ some .directory := by
  unfold locateNew at located
  dsimp only [bind, Except.bind, pure, Except.pure, throw, throwThe, MonadExceptOf.throw] at located
  cases followed : tree.followAll path path.pieces with
  | error cause =>
      rw [followed] at located
      split_ifs at located
  | ok reached =>
      rw [followed] at located
      dsimp only at located
      split_ifs at located with empty slash
      split at located
      · cases located
      · next other =>
          cases located
          exact ⟨empty, eq_false_of_ne_true slash, rfl, other⟩

/-- A path with no slash at its end asks for no directory. -/
theorem locate_eq_followAll {tree : FileTree} {path : Path} (nonempty : path.text ≠ "")
    (slash : path.endsInSlash = false) : tree.locate path = tree.followAll path path.pieces := by
  rw [locate, if_neg nonempty, slash, if_neg Bool.false_ne_true, List.append_nil]

theorem followAll_eq_ok {tree : FileTree} {path : Path} {pieces : List String}
    {location : Location} :
    tree.followAll path pieces = .ok location ↔ path.refusal? = none ∧
      pieces.foldlM tree.follow (if path.isAbsolute then [] else tree.workingDirectory) =
        .ok location := by
  unfold followAll
  cases path.refusal? with
  | some cause => exact iff_of_false nofun nofun
  | none => exact (and_iff_right rfl).symm

/-- A path leads where it led if the directories are still there. -/
theorem followAll_mono {tree later : FileTree} {path : Path} {pieces : List String}
    {location : Location}
    (kept : forall place, tree.find? place = some .directory -> later.find? place = some .directory)
    (start : later.workingDirectory = tree.workingDirectory)
    (followed : tree.followAll path pieces = .ok location) :
    later.followAll path pieces = .ok location := by
  rw [followAll_eq_ok] at followed ⊢
  rw [start]
  exact ⟨followed.1, foldlM_follow_mono kept followed.2⟩

/-- A path that is followed leads to the same place after a file was put there. -/
theorem followAll_put {tree : FileTree} {path : Path} {location : Location}
    (file : tree.find? location ≠ some .directory) (entry : FileEntry) {pieces : List String}
    (followed : tree.followAll path pieces = .ok location) :
    (tree.put location entry).followAll path pieces = .ok location := by
  have kept (place : Location) (directory : tree.find? place = some .directory) :
      (tree.put location entry).find? place = some .directory := by
    rwa [find?_put_of_ne tree]
    rintro rfl
    exact file directory
  exact followAll_mono kept rfl followed

/-- A file that was written is found with its content. -/
theorem get_of_writeBytes {tree after : FileTree} {path : Path} {content : ByteArray}
    (wrote : tree.writeBytes path content = .ok after) : after.get path = .ok (.file content) := by
  unfold writeBytes at wrote
  cases located : tree.locateNew path with
  | error cause =>
      rw [located] at wrote
      cases wrote
  | ok location =>
      rw [located] at wrote
      cases wrote
      rcases of_locateNew located with ⟨nonempty, slash, followed, file⟩
      have below : location ≠ [] := by
        rintro rfl
        exact file rfl
      have reached : (tree.put location (.file content)).locate path = .ok location := by
        rw [locate_eq_followAll nonempty slash]
        exact followAll_put file (.file content) followed
      rw [get, reached]
      dsimp only [bind, Except.bind]
      rw [find?_put below]
      rfl

/-- A change that is refused leaves the tree as it is. -/
theorem run_change (result : FileTree -> Except FileError FileTree) (before : FileTree) :
    (change result).run before =
      match result before with
      | .ok tree => (.ok (), tree)
      | .error cause => (.error cause, before) := by
  rw [change, StateT.run_bind]
  dsimp only [bind, Id, MonadState.get, getThe, MonadStateOf.get, StateT.get, StateT.run, pure]
  cases result before <;> rfl

/-- A change that succeeds is a result that succeeds. -/
theorem of_run_change {result : FileTree -> Except FileError FileTree} {before after : FileTree}
    (changed : (change result).run before = (.ok (), after)) : result before = .ok after := by
  rw [run_change] at changed
  cases found : result before with
  | error cause =>
      rw [found] at changed
      cases (Prod.mk.inj changed).1
  | ok tree =>
      rw [found] at changed
      rw [← (Prod.mk.inj changed).2]

/-- File trees keep what was written to files. -/
theorem readsBack : FileSystem.ReadsBack FileTree := by
  refine ⟨fun {path content before after} wrote => ?_⟩
  have found := get_of_writeBytes (of_run_change wrote)
  have present : after.isPresent path = true := by
    rw [isPresent, found]
    rfl
  have read : after.readBytes path = .ok content := by
    rw [readBytes, found]
    rfl
  exact ⟨after, congrArg (·, after) present, after, congrArg (·, after) read⟩

end FileTree

end Starfield
