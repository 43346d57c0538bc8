import Starfield.Files.Tree
import Starfield.Proofs.Files.Growth

namespace Starfield

/-!
# Files of one name

Writing a file replaces what it holds.  Yet a file is written only where its
path leads, and a path leads to a place with the name that the path ends in.  So
the files of one name are safe from all writing under other names.
-/

/-! ## Pieces of paths -/

namespace Path

variable {slash : Char}

theorem split_append_cons (before after : List Char) :
    split slash (before ++ slash :: after) = split slash before ++ split slash after := by
  have nonempty (text : List Char) : split slash text ≠ [] := by
    cases text with
    | nil => exact List.cons_ne_nil _ _
    | cons c text =>
        rw [split]
        split_ifs
        · exact List.cons_ne_nil _ _
        · cases split slash text <;> exact List.cons_ne_nil _ _
  induction before with
  | nil => exact if_pos rfl
  | cons c before ih =>
      rw [List.cons_append, split, split, ih]
      split_ifs with same
      · rfl
      · cases found : split slash before with
        | nil => cases nonempty before found
        | cons piece pieces => rfl

theorem split_of_notMem {text : List Char} (free : slash ∉ text) : split slash text = [text] := by
  induction text with
  | nil => rfl
  | cons c text ih =>
      rw [List.mem_cons, not_or] at free
      rw [split, if_neg (Ne.symm free.1), ih free.2]

/-- A file in a directory has its name as the last piece of its path. -/
theorem pieces_join (directory : Path) (name : String) (named : name ≠ "")
    (free : '/' ∉ name.toList) : (directory.join ⟨name⟩).pieces = directory.pieces ++ [name] := by
  rcases directory with ⟨text⟩
  have relative : (⟨name⟩ : Path).isAbsolute = false :=
    decide_eq_false fun first => free (List.mem_of_head? first)
  have last : (([name.toList].filter (· ≠ [])).map String.ofList) = [name] := by
    have kept : [name.toList].filter (· ≠ []) = [name.toList] :=
      List.filter_cons_of_pos (decide_eq_true (mt String.toList_eq_nil_iff.mp named))
    rw [kept]
    exact congrArg (fun piece => [piece]) String.ofList_toList
  -- The pieces of the directory's text and of the name are found on either side
  -- of a slash.
  have sides {path : Path} (front : List Char)
      (letters : path.text.toList = front ++ '/' :: name.toList) :
      path.pieces = ((split '/' front).filter (· ≠ [])).map String.ofList ++ [name] := by
    rw [pieces, letters, split_append_cons, split_of_notMem free, List.filter_append,
      List.map_append, last]
  unfold join
  rw [relative, Bool.false_or]
  split_ifs with empty slash
  · cases of_decide_eq_true empty
    rw [pieces, split_of_notMem free, last]
    rfl
  · rcases List.getLast?_eq_some_iff.mp (of_decide_eq_true slash) with ⟨front, letters⟩
    rw [sides front (by rw [String.toList_append, letters, List.append_assoc]; rfl),
      pieces, letters, split_append_cons, List.filter_append]
    exact congrArg (List.map _ · ++ [name]) (List.append_nil _).symm
  · refine sides text.toList ?_
    rw [String.toList_append, String.toList_append, List.append_assoc]
    rfl

/-- The path leads to things of another name. -/
def AvoidsName (path : Path) (name : String) : Prop :=
  Exists fun other => path.pieces.getLast? = some other ∧ other ≠ "." ∧ other ≠ ".." ∧ other ≠ name

theorem avoidsName_join (directory : Path) {name : String} (other : String)
    (free : '/' ∉ other.toList) (named : other ∉ ["", ".", "..", name]) :
    (directory.join ⟨other⟩).AvoidsName name := by
  simp only [List.mem_cons, List.not_mem_nil, not_or, not_false_eq_true, and_true] at named
  exact ⟨other, by rw [pieces_join directory other named.1 free, List.getLast?_concat], named.2⟩

end Path

namespace FileTree

variable {before after tree : FileTree} {path : Path} {location : Location} {name : String}

/-- A path leads to things with its last piece as their name. -/
theorem getLast?_of_followAll {last : String} (ends : path.pieces.getLast? = some last)
    (proper : last ≠ "." ∧ last ≠ "..") (followed : tree.followAll path path.pieces = .ok location) :
    location.getLast? = some last := by
  rcases List.getLast?_eq_some_iff.mp ends with ⟨others, same⟩
  rw [same] at followed
  rcases followAll_append.mp followed with ⟨middle, -, reached⟩
  rcases Outcome.bind_eq_ok.mp reached with ⟨next, step, done⟩
  cases done
  unfold follow at step
  rw [find?_of_follow step] at step
  dsimp only at step
  split_ifs at step
  · cases proper.1 ‹_›
  · cases proper.2 ‹_›
  · cases step
    exact List.getLast?_concat

/-- The files with this name are those that there were before, and hold what
they held. -/
def KeepsNamed (name : String) (before after : FileTree) : Prop :=
  forall (location : Location) (content : ByteArray), location.getLast? = some name ->
    (after.find? location = some (.file content) ↔ before.find? location = some (.file content))

instance : IsPreorder FileTree (KeepsNamed name) where
  refl _ _ _ _ := Iff.rfl
  trans _ _ _ early late location content named :=
    (late location content named).trans (early location content named)

theorem Gains.keepsNamed (gains : Gains before after) : KeepsNamed name before after := by
  refine fun location content _ => ⟨fun found => ?_, gains.kept⟩
  cases held : before.find? location with
  | none => cases gains.new held found
  | some entry => exact (gains.kept held).symm.trans found

/-- Putting something elsewhere keeps the files of a name. -/
theorem keepsNamed_put (apart : location.getLast? ≠ some name) (entry : FileEntry) :
    KeepsNamed name tree (tree.put location entry) := by
  intro other content named
  rw [find?_put_of_ne]
  rintro rfl
  exact apart named

/-- The files of a name are kept when only files of other names are written. -/
theorem KeepsNamed.within : FileSystem.Within (KeepsNamed name) (·.AvoidsName name) := by
  refine FileTree.within (fun made => ?_) fun {path content before after} avoids wrote => ?_
  · rcases of_makeDirectory made with ⟨location, -, vacant, rfl⟩
    exact (Gains.put vacant).keepsNamed
  · rcases avoids with ⟨other, ends, here, up, apart⟩
    rcases Outcome.bind_eq_ok.mp wrote with ⟨location, located, done⟩
    cases done
    rcases of_locateNew located with ⟨-, -, followed, -⟩
    refine keepsNamed_put ?_ (.file content)
    rw [getLast?_of_followAll ends ⟨here, up⟩ followed]
    exact fun same => apart (Option.some.inj same)

end FileTree

end Starfield
