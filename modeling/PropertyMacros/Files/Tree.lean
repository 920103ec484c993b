import PropertyMacros.Files.Basic
import PropertyMacros.Text.Split

/-!
A tree of files that is known as a whole, and how paths lead through it.

Directories exist as far as a file lies in them, and the working directory exists in any case. A
path is followed component by component, which is why it can fail at a file in its middle.
-/

namespace PropertyMacros

/-- The components of an absolute path. -/
abbrev Location := List String

/-- Files by their locations. -/
structure FileTree where
  workingDirectory : Location
  files : List (Location × ByteArray)

namespace FileTree

/-- Whether a location is a directory: one that the working directory or a file lies below. -/
def isDirectory (tree : FileTree) (location : Location) : Bool :=
  location.isPrefixOf tree.workingDirectory ||
    tree.files.any fun f => location.isPrefixOf f.1 && location.length < f.1.length

/-- The components of a path. An empty last one stands for a slash at the end. -/
def components (path : String) : List String :=
  (Text.splitAll '/' path.toList).map String.ofList

/-- The location at which a path starts. -/
def base (tree : FileTree) (path : String) : Location :=
  if path.toList.head? = some '/' then [] else tree.workingDirectory

/-- The length of the longest name of a file, in bytes. -/
def maxNameSize : Nat := 255

/-- The length of the longest path, in bytes. -/
def maxPathSize : Nat := 4095

/-- Follows components from a directory. The location that is reached need not exist, but what
leads to it has to be a directory. -/
def follow (tree : FileTree) : Location → List String → Except FileFault Location
  | here, [] => .ok here
  | here, name :: names =>
    if !tree.isDirectory here then
      .error (if (tree.files.lookup here).isSome then .notDirectory else .notFound)
    else if maxNameSize < name.utf8ByteSize then .error .nameTooLong
    else if name == "" || name == "." then tree.follow here names
    else if name == ".." then tree.follow here.dropLast names
    else tree.follow (here ++ [name]) names

/-- Follows the components of a path that can be one. -/
def followPath (tree : FileTree) (path : String) (names : List String) :
    Except FileFault Location :=
  if path.toList.contains '\x00' then .error .zeroInPath
  else if path = "" then .error .notFound
  else if maxPathSize < path.utf8ByteSize then .error .nameTooLong
  else tree.follow (tree.base path) names

def locate (tree : FileTree) (path : String) : Except FileFault Location :=
  tree.followPath path (components path)

def read (tree : FileTree) (path : String) : Except FileFault ByteArray := do
  let location ← tree.locate path
  if tree.isDirectory location then throw .isDirectory
  match tree.files.lookup location with
  | some bytes => return bytes
  | none => throw .notFound

/-- The components that lead to the directory of the last name in a path. -/
def parentComponents (path : String) : List String :=
  ((components path).reverse.dropWhile (· == "")).tail.reverse ++ [""]

/-- The location of a file that can be appended to. It need not exist, but its directory has to, and
a slash at the end of the path stands for a directory. -/
def locateLog (tree : FileTree) (path : String) : Except FileFault Location := do
  if path.toList.getLast? = some '/' then
    let _ ← tree.followPath path (parentComponents path)
    throw .isDirectory
  let location ← tree.locate path
  if tree.isDirectory location then throw .isDirectory
  return location

/-- What the tree tells a program. -/
def toFiles (tree : FileTree) : Files where
  read := tree.read
  openLog path := (fun _ => ()) <$> tree.locateLog path

/-- The tree with a file at the end of a path, which is empty if it is new. -/
def create (tree : FileTree) (path : String) : FileTree :=
  match tree.locateLog path with
  | .error _ => tree
  | .ok location =>
    if (tree.files.lookup location).isSome then tree
    else { tree with files := tree.files ++ [(location, ByteArray.empty)] }

end FileTree

end PropertyMacros
