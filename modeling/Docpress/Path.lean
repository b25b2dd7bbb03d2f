/-!
Paths of files, as their text says without a look at any file. A slash separates names; a name of
no characters or of one dot stands for the directory it is in.
-/

namespace Docpress

/-- A path, absolute if it starts with a slash. -/
structure Path where
  text : String
  deriving Repr, DecidableEq, Inhabited

namespace Path

/-- The pieces of a text between slashes. There is always at least one. -/
def splitAtSlashes : List Char → List (List Char)
  | [] => [[]]
  | c :: rest =>
    if c == '/' then
      [] :: splitAtSlashes rest
    else
      match splitAtSlashes rest with
      | [] => [[c]]
      | piece :: pieces => (c :: piece) :: pieces

/-- Whether a path starts at the top. -/
def isAbsolute (path : Path) : Bool :=
  path.text.toList.head? == some '/'

/-- Whether a path ends in a slash. -/
def endsInSlash (path : Path) : Bool :=
  path.text.toList.getLast? == some '/'

/-- The names between the slashes, behind the slash that makes the path absolute. -/
def pieces (path : Path) : List String :=
  let pieces := (splitAtSlashes path.text.toList).map String.ofList
  if path.isAbsolute then pieces.drop 1 else pieces

/-- Whether a name stands for the directory it is in. -/
def isStay (name : String) : Bool :=
  name == "" || name == "."

/-- The names without those at the end that stand for the directory they are in. -/
def dropStays (names : List String) : List String :=
  (names.reverse.dropWhile isStay).reverse

/-- The pieces of a path up to its last name. A dot right at the start of a relative path counts as a
name.
-/
def body (path : Path) : List String :=
  match path.isAbsolute, path.pieces with
  | false, "." :: rest => "." :: dropStays rest
  | _, pieces => dropStays pieces

/-- The path of the given pieces. -/
def ofPieces (absolute : Bool) (pieces : List String) : Path :=
  ⟨(if absolute then "/" else "") ++ "/".intercalate pieces⟩

/-- The path that leads to what a path names, if the path has a last name. -/
def parent? (path : Path) : Option Path :=
  match path.body with
  | [] => none
  | body => some (ofPieces path.isAbsolute (ofPieces path.isAbsolute body.dropLast).body)

/-- The last name of a path, unless it stands for a directory above or for the one it is in. -/
def fileName? (path : Path) : Option String :=
  match (dropStays path.pieces).getLast? with
  | none => none
  | some name => if name == ".." then none else some name

/-- Splits a file name at its last dot. A name without dot has no extension, and neither has a name
whose only dot is its first character.
-/
def splitName (name : String) : String × Option String :=
  let reversed := name.toList.reverse
  let stem := (reversed.dropWhile (· != '.')).drop 1
  if stem.isEmpty then
    (name, none)
  else
    (String.ofList stem.reverse, some (String.ofList (reversed.takeWhile (· != '.')).reverse))

/-- The file name without its extension. -/
def stem? (path : Path) : Option String :=
  path.fileName?.map fun name => (splitName name).1

/-- What stands behind the last dot of the file name. -/
def extension? (path : Path) : Option String :=
  path.fileName?.bind fun name => (splitName name).2

/-- The path of a file in a directory. -/
def join (directory : Path) (name : String) : Path :=
  if directory.text.isEmpty || directory.endsInSlash then
    ⟨directory.text ++ name⟩
  else
    ⟨directory.text ++ "/" ++ name⟩

/-- A path followed by the paths that lead to it, up to the last one that has a name. -/
def lineage (path : Path) : List Path :=
  go (path.pieces.length + 1) path
where
  /-- At most as many paths as asked for. -/
  go : Nat → Path → List Path
    | 0, _ => []
    | count + 1, path =>
      if path.text.isEmpty then []
      else
        match path.parent? with
        | none => [path]
        | some parent => path :: go count parent

end Path

end Docpress
