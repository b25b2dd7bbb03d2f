import Docpress.FileSystem

/-!
A file system without links as a value: files and directories under the names that lead to them from
the top, and the directory that relative paths start from.
-/

namespace Docpress

/-- What a file system has in one place. -/
inductive FileEntry where
  | directory
  | file (content : ByteArray)
  deriving Inhabited

/-- Whether an entry is a directory. -/
def FileEntry.isDirectory : FileEntry → Bool
  | .directory => true
  | .file _ => false

/-- A file system. Its top is always a directory. -/
structure FileTree where
  entries : List (List String × FileEntry) := []
  /-- The names that lead to the directory in which relative paths start. -/
  here : List String := []
  deriving Inhabited

namespace FileTree

/-- What is in a place. -/
def entry? (tree : FileTree) : List String → Option FileEntry
  | [] => some .directory
  | place => tree.entries.lookup place

/-- The tree with a new entry in a place, instead of the old one if there is one. -/
def put (tree : FileTree) (place : List String) (entry : FileEntry) : FileTree :=
  if tree.entries.any (·.1 == place) then
    { tree with
      entries := tree.entries.map fun old => if old.1 == place then (place, entry) else old }
  else
    { tree with entries := tree.entries ++ [(place, entry)] }

/-- Whether a directory is in a place. -/
def holdsDirectory (tree : FileTree) (place : List String) : Bool :=
  (tree.entry? place).any (·.isDirectory)

/-- The place that names lead to from another place. Every name is looked up in a directory. -/
def walk (tree : FileTree) : (place names : List String) → Except FileError (List String)
  | place, [] => .ok place
  | place, name :: names =>
    match tree.entry? place with
    | none => .error .notFound
    | some (.file _) => .error .notDirectory
    | some .directory =>
      if Path.isStay name then tree.walk place names
      else if name == ".." then tree.walk place.dropLast names
      else if (tree.entry? (place ++ [name])).isSome then tree.walk (place ++ [name]) names
      else .error .notFound

/-- Where a path starts. -/
def start (tree : FileTree) (path : Path) : List String :=
  if path.isAbsolute then [] else tree.here

/-- The place that a path leads to, where something is. -/
def locate (tree : FileTree) (path : Path) : Except FileError (List String) :=
  if path.text.isEmpty then .error .notFound else tree.walk (tree.start path) path.pieces

/-- The directory in which a path names something, and the name, if the path does not stand for a
directory that is there anyway.
-/
def locateNew (tree : FileTree) (path : Path) : Except FileError (Option (List String)) := do
  if path.text.isEmpty then
    throw .notFound
  let names := path.pieces.filter (· != "")
  match names.getLast? with
  | none => return none
  | some name =>
    let directory ← tree.walk (tree.start path) names.dropLast
    if !tree.holdsDirectory directory then
      throw .notDirectory
    else if name == "." || name == ".." then
      return none
    else
      return some (directory ++ [name])

/-- The content of the file that a path leads to. -/
def read (tree : FileTree) (path : Path) : Except FileError ByteArray := do
  match tree.entry? (← tree.locate path) with
  | some (.file content) => return content
  | some .directory => throw .isDirectory
  | none => throw .notFound

/-- The text of the file that a path leads to. -/
def readText (tree : FileTree) (path : Path) : Except FileError String := do
  match String.fromUTF8? (← tree.read path) with
  | some text => return text
  | none => throw .notText

/-- The tree after a content is written to a file. -/
def write (tree : FileTree) (path : Path) (content : ByteArray) : Except FileError FileTree := do
  match ← tree.locateNew path with
  | none => throw .isDirectory
  | some place =>
    if path.endsInSlash || tree.holdsDirectory place then
      throw .isDirectory
    else
      return tree.put place (.file content)

/-- The tree after a directory is made. -/
def makeDirectory (tree : FileTree) (path : Path) : Except FileError FileTree := do
  match ← tree.locateNew path with
  | none => throw .alreadyExists
  | some place =>
    if (tree.entry? place).isSome then
      throw .alreadyExists
    else
      return tree.put place .directory

/-- What a path leads to. -/
def find? (tree : FileTree) (path : Path) : Option FileEntry :=
  match tree.locate path with
  | .ok place => tree.entry? place
  | .error _ => none

/-- Changes the tree of a state, unless the change fails. -/
def update (change : FileTree → Except FileError FileTree) : StateM FileTree (Except FileError Unit) :=
  fun tree =>
    match change tree with
    | .ok changed => (.ok (), changed)
    | .error error => (.error error, tree)

instance : FileSystem (StateM FileTree) where
  readText path := fun tree => (tree.readText path, tree)
  writeText path text := update fun tree => tree.write path text.toUTF8
  makeDirectory path := update fun tree => tree.makeDirectory path
  isPresent path := fun tree => ((tree.find? path).isSome, tree)
  isDirectory path := fun tree => ((tree.find? path).any (·.isDirectory), tree)

end FileTree

end Docpress
