import Mathlib
import Starfield.Proofs.Files.Effects
import Starfield.Proofs.Files.ReadBack

namespace Starfield

/-!
# Trees that only gain directories

Making directories puts them where nothing was.  So a tree keeps all that it
has, and a path that leads somewhere leads there still.  The converse needs more
than that: a path can lead through a directory that is new, and up again by
`..`, to something that has been there all along.  Without such pieces a path
leads only to places below those it is followed through; what is found there
afterwards but was not found before is new.
-/

namespace Path

/-- A path that is not empty has a piece, unless it starts at the root. -/
theorem pieces_ne_nil {path : Path} (nonempty : path.text ≠ "")
    (relative : path.isAbsolute = false) : path.pieces ≠ [] := by
  rcases path with ⟨text⟩
  cases letters : text.toList with
  | nil => cases nonempty (String.toList_eq_nil_iff.mp letters)
  | cons c rest =>
      have other : c ≠ '/' := by
        rintro rfl
        rw [isAbsolute, letters] at relative
        cases relative
      rw [pieces, letters, split, if_neg other]
      cases split '/' rest <;> exact List.cons_ne_nil _ _

end Path

namespace FileTree

variable {before after tree : FileTree} {path : Path} {location : Location}

/-! ## Steps on a tree -/

/-- What is kept by the steps that change a tree is kept by all the work on
it. -/
theorem within {relation : FileTree -> FileTree -> Prop} [IsPreorder FileTree relation]
    {writable : Path -> Prop}
    (makes : forall {path before after}, before.makeDirectory path = .ok after ->
      relation before after)
    (writes : forall {path content before after}, writable path ->
      before.writeBytes path content = .ok after -> relation before after) :
    FileSystem.Within relation writable := by
  have changes (result : FileTree -> Except FileError FileTree)
      (leads : forall {before after}, result before = .ok after -> relation before after) :
      Leads relation (change result) := by
    intro before
    rw [run_change]
    cases changed : result before with
    | error cause => exact Std.Refl.refl before
    | ok tree => exact leads changed
  exact
    { isPresent := fun _ => Std.Refl.refl
      isDirectory := fun _ => Std.Refl.refl
      readBytes := fun _ => Std.Refl.refl
      makeDirectory := fun path => changes _ makes
      writeBytes := fun content chosen => changes _ (writes chosen) }

theorem get_eq_ok {entry : FileEntry} : tree.get path = .ok entry ↔
    Exists fun location => tree.locate path = .ok location ∧ tree.find? location = some entry := by
  unfold get
  rw [Outcome.bind_eq_ok]
  refine exists_congr fun location => and_congr_right fun _ => ?_
  cases tree.find? location with
  | none => exact iff_of_false nofun nofun
  | some found => exact ⟨fun same => by cases same; rfl, fun same => by cases same; rfl⟩

theorem isPresent_eq_true : tree.isPresent path = true ↔
    Exists fun entry => tree.get path = .ok entry := by
  unfold isPresent
  cases tree.get path with
  | error cause => exact iff_of_false nofun nofun
  | ok entry => exact iff_of_true rfl ⟨entry, rfl⟩

theorem isDirectory_eq_true : tree.isDirectory path = true ↔ tree.get path = .ok .directory := by
  unfold isDirectory
  cases tree.get path with
  | error cause => exact iff_of_false nofun nofun
  | ok entry =>
      cases entry with
      | file content => exact iff_of_false nofun nofun
      | directory => exact iff_of_true rfl rfl

theorem followAll_append {front back : List String} :
    tree.followAll path (front ++ back) = .ok location ↔
      Exists fun middle => tree.followAll path front = .ok middle ∧
        back.foldlM tree.follow middle = .ok location := by
  simp only [followAll_eq_ok, List.foldlM_append, Outcome.bind_eq_ok, and_assoc, exists_and_left]

theorem follow_here (directory : tree.find? location = some .directory) :
    tree.follow location "." = .ok location := by
  unfold follow
  rw [directory]
  rfl

/-- A directory is made where nothing was. -/
theorem of_makeDirectory (made : tree.makeDirectory path = .ok after) :
    Exists fun location => tree.followAll path path.pieces = .ok location ∧
      tree.find? location = none ∧ after = tree.put location .directory := by
  rcases Outcome.bind_eq_ok.mp made with ⟨location, followed, put⟩
  refine ⟨location, followed, ?_⟩
  cases last : path.pieces.getLast? with
  | none =>
      rw [last] at put
      cases put
  | some last =>
      rw [last] at put
      dsimp only at put
      split_ifs at put with taken
      cases put
      rw [not_or, not_or] at taken
      exact ⟨Option.not_isSome_iff_eq_none.mp taken.2.2, rfl⟩

/-- Where nothing is there is not the root. -/
theorem ne_root_of_vacant (vacant : tree.find? location = none) : location ≠ [] := by
  rintro rfl
  cases vacant

/-! ## Gains -/

/-- Nothing is lost, and all that is new are directories. -/
structure Gains (before after : FileTree) : Prop where
  start : after.workingDirectory = before.workingDirectory
  kept {location : Location} {entry : FileEntry} (found : before.find? location = some entry) :
    after.find? location = some entry
  new {location : Location} {entry : FileEntry} (vacant : before.find? location = none)
    (found : after.find? location = some entry) : entry = .directory

namespace Gains

theorem put (vacant : tree.find? location = none) : Gains tree (tree.put location .directory) where
  start := rfl
  kept found := by
    rw [find?_put_of_ne _ _, found]
    rintro rfl
    cases vacant.symm.trans found
  new {other entry} absent found := by
    by_cases same : other = location
    · rw [same, find?_put (ne_root_of_vacant vacant)] at found
      exact (Option.some.inj found).symm
    · rw [find?_put_of_ne _ same, absent] at found
      cases found

instance : IsPreorder FileTree Gains where
  refl _ := ⟨rfl, id, fun vacant found => by cases vacant.symm.trans found⟩
  trans first second third early late :=
    { start := late.start.trans early.start
      kept := fun found => late.kept (early.kept found)
      new := fun {location entry} vacant found => by
        cases between : second.find? location with
        | none => exact late.new between found
        | some other =>
            cases (late.kept between).symm.trans found
            exact early.new vacant between }

/-- Without writing a tree only gains directories. -/
theorem within : FileSystem.Within Gains fun _ => False :=
  FileTree.within
    (fun made => by
      rcases of_makeDirectory made with ⟨location, -, vacant, rfl⟩
      exact put vacant)
    False.elim

variable (gains : Gains before after)

include gains

theorem followAll {pieces : List String} (followed : before.followAll path pieces = .ok location) :
    after.followAll path pieces = .ok location :=
  followAll_mono (fun _ => gains.kept) gains.start followed

theorem get {entry : FileEntry} (found : before.get path = .ok entry) :
    after.get path = .ok entry := by
  rcases get_eq_ok.mp found with ⟨location, located, there⟩
  refine get_eq_ok.mpr ⟨location, ?_, gains.kept there⟩
  unfold locate at located ⊢
  split_ifs at located ⊢
  · exact gains.followAll located
  · exact gains.followAll located

theorem isDirectory (found : before.isDirectory path = true) : after.isDirectory path = true :=
  isDirectory_eq_true.mpr (gains.get (isDirectory_eq_true.mp found))

end Gains

/-! ## Directories that are there -/

/-- A directory is found whether or not its path ends in a slash. -/
theorem locate_directory (directory : tree.find? location = some .directory) :
    tree.locate path = .ok location ↔
      path.text ≠ "" ∧ tree.followAll path path.pieces = .ok location := by
  unfold locate
  by_cases empty : path.text = ""
  · rw [if_pos empty]
    exact iff_of_false nofun fun named => named.1 empty
  rw [if_neg empty, and_iff_right empty]
  cases path.endsInSlash with
  | false =>
      exact iff_of_eq (congrArg (fun pieces => tree.followAll path pieces = _) (List.append_nil _))
  | true =>
      refine followAll_append.trans ⟨?_, fun followed => ⟨location, followed, ?_⟩⟩
      · rintro ⟨middle, followed, last⟩
        rcases Outcome.bind_eq_ok.mp last with ⟨next, stays, done⟩
        cases done
        cases (follow_here (find?_of_follow stays)).symm.trans stays
        exact followed
      · exact Outcome.bind_eq_ok.mpr ⟨location, follow_here directory, rfl⟩

theorem isDirectory_of_makeDirectory (nonempty : path.text ≠ "")
    (made : tree.makeDirectory path = .ok after) : after.isDirectory path = true := by
  rcases of_makeDirectory made with ⟨location, followed, vacant, rfl⟩
  have there : (tree.put location .directory).find? location = some .directory :=
    find?_put (ne_root_of_vacant vacant) _
  have leads := (Gains.put vacant).followAll followed
  exact isDirectory_eq_true.mpr
    (get_eq_ok.mpr ⟨location, (locate_directory there).mpr ⟨nonempty, leads⟩, there⟩)

/-- A directory that is there is not made again. -/
theorem makeDirectory_of_isDirectory (there : tree.isDirectory path = true) :
    tree.makeDirectory path = .error .alreadyExists := by
  rcases get_eq_ok.mp (isDirectory_eq_true.mp there) with ⟨location, located, directory⟩
  rcases (locate_directory directory).mp located with ⟨nonempty, followed⟩
  unfold makeDirectory
  rw [followed, Outcome.ok_bind, directory]
  cases last : path.pieces.getLast? with
  | some last => exact if_pos (Or.inr (Or.inr rfl))
  | none =>
      have absolute : path.isAbsolute = true := by
        by_contra relative
        exact Path.pieces_ne_nil nonempty (eq_false_of_ne_true relative)
          (List.getLast?_eq_none_iff.mp last)
      rw [absolute]
      rfl

theorem settle_run (path : Path) (result : Except FileError Unit) (tree : FileTree) :
    (FileSystem.settle (m := StateM FileTree) path result).run tree =
      (if tree.isDirectory path then .ok () else result, tree) := by
  cases result with
  | ok _ => exact congrArg (·, tree) (ite_self _).symm
  | error cause => rfl

theorem makeDirectories_of_isDirectory (there : tree.isDirectory path = true) :
    (FileSystem.makeDirectories (m := StateM FileTree) path).run tree = (.ok (), tree) := by
  have made : (FileSystem.makeDirectory (m := StateM FileTree) path).run tree =
      (.error .alreadyExists, tree) := by
    refine (run_change _ tree).trans ?_
    rw [makeDirectory_of_isDirectory there]
  unfold FileSystem.makeDirectories
  split_ifs
  · rfl
  · rw [Path.ancestors, FileSystem.makeChain, StateT.run_bind, made]
    exact (settle_run path _ tree).trans (congrArg (·, tree) (if_pos there))

theorem isDirectory_of_makeChain {parents : List Path} (nonempty : path.text ≠ "")
    (made : (FileSystem.makeChain (m := StateM FileTree) (path :: parents)).run before =
      (.ok (), after)) : after.isDirectory path = true := by
  -- The last step makes the directory, or else sees that it is there.
  have settled (start : FileTree) {tree : FileTree} {result : Except FileError Unit}
      (step : (FileSystem.makeDirectory (m := StateM FileTree) path).run start = (result, tree))
      (last : (FileSystem.settle (m := StateM FileTree) path result).run tree = (.ok (), after)) :
      after.isDirectory path = true := by
    rw [settle_run] at last
    rcases Prod.mk.inj last with ⟨succeeded, rfl⟩
    by_contra missing
    rw [if_neg missing] at succeeded
    subst succeeded
    exact missing (isDirectory_of_makeDirectory nonempty (of_run_change step))
  rw [FileSystem.makeChain, StateT.run_bind] at made
  rcases step : (FileSystem.makeDirectory (m := StateM FileTree) path).run before with ⟨result, tree⟩
  rw [step] at made
  cases result with
  | ok _ => exact settled before step made
  | error cause =>
      cases cause with
      | notFound =>
          change (FileSystem.makeChain (m := StateM FileTree) parents >>= fun created => _).run
            tree = _ at made
          rw [StateT.run_bind] at made
          rcases chain : (FileSystem.makeChain (m := StateM FileTree) parents).run tree with
            ⟨created, next⟩
          rw [chain] at made
          cases created with
          | error cause => cases (Prod.mk.inj made).1
          | ok _ => exact settled next rfl made
      | _ => exact settled before step made

/-- Directories that were made are there, except that there need not be one of
no name. -/
theorem isDirectory_of_makeDirectories
    (made : (FileSystem.makeDirectories (m := StateM FileTree) path).run before = (.ok (), after)) :
    path.text = "" ∨ after.isDirectory path = true := by
  unfold FileSystem.makeDirectories at made
  split_ifs at made with empty
  · exact Or.inl empty
  · exact Or.inr (isDirectory_of_makeChain empty made)

/-! ## Files that are new -/

/-- Everything below the root is in a directory. -/
def IsClosed (tree : FileTree) : Prop :=
  forall {parent : Location} {name : String} {entry : FileEntry},
    tree.find? (parent ++ [name]) = some entry -> tree.find? parent = some .directory

/-- Where the path of a missing file leads there is nothing. -/
theorem vacant_of_absent (nonempty : path.text ≠ "") (slash : path.endsInSlash = false)
    (absent : tree.isPresent path = false)
    (followed : tree.followAll path path.pieces = .ok location) : tree.find? location = none := by
  rw [← locate_eq_followAll nonempty slash] at followed
  cases found : tree.find? location with
  | none => rfl
  | some entry =>
      rw [isPresent_eq_true.mpr ⟨entry, get_eq_ok.mpr ⟨location, followed, found⟩⟩] at absent
      cases absent

/-- A file that is not there is written where nothing is. -/
theorem vacant_of_locateNew (absent : tree.isPresent path = false)
    (located : tree.locateNew path = .ok location) : tree.find? location = none := by
  rcases of_locateNew located with ⟨nonempty, slash, followed, -⟩
  exact vacant_of_absent nonempty slash absent followed

/-- Pieces that never go up lead through a tree as they lead through one with
more directories, if what they lead to is there. -/
theorem foldlM_follow_of_gains (closed : before.IsClosed) (gains : Gains before after)
    {pieces : List String} (forward : ".." ∉ pieces) {here : Location} {entry : FileEntry}
    (there : before.find? location = some entry)
    (followed : pieces.foldlM after.follow here = .ok location) :
    pieces.foldlM before.follow here = .ok location ∧
      Exists fun entry => before.find? here = some entry := by
  induction pieces generalizing here with
  | nil =>
      cases followed
      exact ⟨rfl, entry, there⟩
  | cons piece pieces ih =>
      rw [List.mem_cons, not_or] at forward
      rcases Outcome.bind_eq_ok.mp followed with ⟨next, step, rest⟩
      rcases ih forward.2 rest with ⟨same, other, found⟩
      have directory := find?_of_follow step
      have inside : before.find? here = some .directory := by
        have led := step
        unfold follow at led
        rw [directory] at led
        dsimp only at led
        split_ifs at led with long here up
        · cases led
          cases directory.symm.trans (gains.kept found)
          exact found
        · cases forward.1 up.symm
        · cases led
          exact closed found
      refine ⟨Outcome.bind_eq_ok.mpr ⟨next, ?_, same⟩, _, inside⟩
      rw [← step]
      unfold follow
      rw [directory, inside]

/-- What a path without steps up leads to after directories were made, but not
before, is new. -/
theorem vacant_of_gains (closed : before.IsClosed) (gains : Gains before after)
    (forward : ".." ∉ path.pieces) (absent : before.isPresent path = false)
    (located : after.locateNew path = .ok location) : before.find? location = none := by
  rcases of_locateNew located with ⟨nonempty, slash, followed, -⟩
  cases found : before.find? location with
  | none => rfl
  | some entry =>
      have led : before.followAll path path.pieces = .ok location := by
        rw [followAll_eq_ok] at followed ⊢
        rw [gains.start] at followed
        exact ⟨followed.1, (foldlM_follow_of_gains closed gains forward found followed.2).1⟩
      cases (vacant_of_absent nonempty slash absent led).symm.trans found

end FileTree

end Starfield
