import Mathlib
import Starfield.Files.FileSystem

namespace Starfield

/-!
# What work on a disk can lead to

A relation between the states before and after is kept by a whole program if it
is kept by its steps.  Nearly all of the program only looks at files and makes
directories; so it is enough to know what these do, and which paths are written.
-/

/-- Every run leads to a state in relation with the one before. -/
def Leads {world α : Type} (relation : world -> world -> Prop) (program : StateM world α) : Prop :=
  forall before, relation before (program.run before).2

namespace Leads

variable {world α β : Type} {relation : world -> world -> Prop}

theorem mono {wider : world -> world -> Prop} {program : StateM world α}
    (leads : Leads relation program) (implies : forall {x y}, relation x y -> wider x y) :
    Leads wider program :=
  fun before => implies (leads before)

variable [IsPreorder world relation]

theorem pure (value : α) : Leads relation (Pure.pure value : StateM world α) :=
  Std.Refl.refl

theorem bind {program : StateM world α} {next : α -> StateM world β}
    (first : Leads relation program) (rest : forall value, Leads relation (next value)) :
    Leads relation (program >>= next) :=
  fun before => IsTrans.trans _ _ _ (first before) (rest _ _)

end Leads

namespace FileSystem

variable {disk : Type} [FileSystem (StateM disk)]

/-- Looking at files and making directories stays within a relation, and so
does writing some of the files. -/
structure Within (relation : disk -> disk -> Prop) (writable : Path -> Prop) : Prop where
  isPresent (path : Path) : Leads relation (isPresent (m := StateM disk) path)
  isDirectory (path : Path) : Leads relation (isDirectory (m := StateM disk) path)
  readBytes (path : Path) : Leads relation (readBytes (m := StateM disk) path)
  makeDirectory (path : Path) : Leads relation (makeDirectory (m := StateM disk) path)
  writeBytes {path : Path} (content : ByteArray) (chosen : writable path) :
    Leads relation (writeBytes (m := StateM disk) path content)

namespace Within

variable {relation : disk -> disk -> Prop} {writable : Path -> Prop}

theorem mono {wider : disk -> disk -> Prop} {chosen : Path -> Prop}
    (within : Within relation writable) (implies : forall {x y}, relation x y -> wider x y)
    (writes : forall {path content}, chosen path ->
      Leads wider (FileSystem.writeBytes (m := StateM disk) path content)) :
    Within wider chosen where
  isPresent path := (within.isPresent path).mono implies
  isDirectory path := (within.isDirectory path).mono implies
  readBytes path := (within.readBytes path).mono implies
  makeDirectory path := (within.makeDirectory path).mono implies
  writeBytes _ picked := writes picked

variable [IsPreorder disk relation] (within : Within relation writable)

include within

theorem settle (path : Path) (result : Except FileError Unit) :
    Leads relation (settle (m := StateM disk) path result) := by
  cases result with
  | ok _ => exact .pure _
  | error cause => exact (within.isDirectory path).bind fun _ => .pure _

theorem makeChain (paths : List Path) : Leads relation (makeChain (m := StateM disk) paths) := by
  induction paths with
  | nil => exact .pure _
  | cons path parents ih =>
      refine (within.makeDirectory path).bind fun result => ?_
      cases result with
      | ok _ => exact within.settle path _
      | error cause =>
          cases cause with
          | notFound =>
              refine ih.bind fun created => ?_
              cases created with
              | error cause => exact .pure _
              | ok _ => exact (within.makeDirectory path).bind fun _ => within.settle path _
          | _ => exact within.settle path _

theorem makeDirectories (path : Path) :
    Leads relation (makeDirectories (m := StateM disk) path) := by
  unfold FileSystem.makeDirectories
  split_ifs
  · exact .pure _
  · exact within.makeChain path.ancestors

end Within

end FileSystem

end Starfield
