import Starfield.Files.FileSystem

namespace Starfield

/-!
# File trees

A file system that is a value: files and directories by their location below
the root, and the location that relative paths start from.  Paths are followed
piece by piece, and each piece but the last has to lead through a directory.
-/

/-- The names from the root to a file or directory. -/
abbrev Location := List String

inductive FileEntry
  | file (content : ByteArray)
  | directory
deriving Inhabited

structure FileTree where
  entries : List (Location × FileEntry) := []
  workingDirectory : Location := []
deriving Inhabited

namespace FileTree

/-- What is at a location.  The root is always a directory. -/
def find? (tree : FileTree) (location : Location) : Option FileEntry :=
  if location = [] then some .directory else tree.entries.lookup location

/-- Replace what is at a location of a list, or add it. -/
def putEntry (location : Location) (entry : FileEntry) :
    List (Location × FileEntry) -> List (Location × FileEntry)
  | [] => [(location, entry)]
  | (other, old) :: rest =>
    if location = other then (location, entry) :: rest
    else (other, old) :: putEntry location entry rest

def put (tree : FileTree) (location : Location) (entry : FileEntry) : FileTree :=
  { tree with entries := putEntry location entry tree.entries }

def remove (tree : FileTree) (location : Location) : FileTree :=
  { tree with entries := tree.entries.filter (·.1 ≠ location) }

/-- The location that a piece leads to.  The piece has to be looked up in a
directory. -/
def follow (tree : FileTree) (here : Location) (piece : String) : Except FileError Location :=
  match tree.find? here with
  | some .directory =>
    if Path.pieceLimit < piece.utf8ByteSize then .error .nameTooLong
    else if piece = "." then .ok here
    else if piece = ".." then .ok here.dropLast
    else .ok (here ++ [piece])
  | some (.file _) => .error .notDirectory
  | none => .error .notFound

/-- The location that some pieces lead to. -/
def followAll (tree : FileTree) (path : Path) (pieces : List String) : Except FileError Location :=
  match path.refusal? with
  | some error => .error error
  | none => pieces.foldlM tree.follow (if path.isAbsolute then [] else tree.workingDirectory)

/-- The location of a file or directory that is looked for.  A slash at the
end asks for a directory. -/
def locate (tree : FileTree) (path : Path) : Except FileError Location :=
  if path.text = "" then .error .notFound
  else tree.followAll path (path.pieces ++ if path.endsInSlash then ["."] else [])

/-- What a path leads to. -/
def get (tree : FileTree) (path : Path) : Except FileError FileEntry := do
  match tree.find? (<- tree.locate path) with
  | some entry => return entry
  | none => throw .notFound

def readBytes (tree : FileTree) (path : Path) : Except FileError ByteArray := do
  match <- tree.get path with
  | .file content => return content
  | .directory => throw .isDirectory

/-- Where a file can be written. -/
def locateNew (tree : FileTree) (path : Path) : Except FileError Location := do
  if path.text = "" then throw .notFound
  let location <- tree.followAll path path.pieces
  if path.endsInSlash then throw .isDirectory
  match tree.find? location with
  | some .directory => throw .isDirectory
  | _ => return location

def writeBytes (tree : FileTree) (path : Path) (content : ByteArray) :
    Except FileError FileTree := do
  return tree.put (<- tree.locateNew path) (.file content)

def makeDirectory (tree : FileTree) (path : Path) : Except FileError FileTree := do
  let location <- tree.followAll path path.pieces
  match path.pieces.getLast? with
  | none => throw (if path.isAbsolute then .alreadyExists else .notFound)
  | some last =>
    if last = "." ∨ last = ".." ∨ (tree.find? location).isSome then throw .alreadyExists
    else return tree.put location .directory

def isPresent (tree : FileTree) (path : Path) : Bool :=
  (tree.get path).toOption.isSome

def isDirectory (tree : FileTree) (path : Path) : Bool :=
  (tree.get path).toOption matches some .directory

/-- The paths below a location relative to it, in order of their text.
Directories end in a slash. -/
def listing (tree : FileTree) (location : Location) : List String :=
  let below := tree.entries.filterMap fun (place, entry) =>
    if location.isPrefixOf place ∧ place ≠ location then
      some ("/".intercalate (place.drop location.length) ++
        match entry with
        | .file _ => ""
        | .directory => "/")
    else none
  below.mergeSort

/-- A change of the tree that may be refused. -/
def change (result : FileTree -> Except FileError FileTree) :
    StateM FileTree (Except FileError Unit) := do
  match result (<- MonadState.get) with
  | .ok tree => set tree; return .ok ()
  | .error error => return .error error

instance : FileSystem (StateM FileTree) where
  isPresent path := return (<- MonadState.get).isPresent path
  isDirectory path := return (<- MonadState.get).isDirectory path
  readBytes path := return (<- MonadState.get).readBytes path
  writeBytes path content := change (·.writeBytes path content)
  makeDirectory path := change (·.makeDirectory path)

end FileTree

end Starfield
