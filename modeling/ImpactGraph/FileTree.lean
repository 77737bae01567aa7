import ImpactGraph.Path.Relative
import ImpactGraph.Text.Decode
import ImpactGraph.Text.Quoted

/-!
# File trees

The file system as a value: a directory is a list of named entries, and a file is its
bytes or is closed to readers. What is neither a directory nor a file is a device, a pipe
or a socket. A path is looked up component by component from the top. Every step needs a
directory to step from, `..` goes back to the directory the walk came through, and a step
to a name needs an entry of that name. So a path that goes up again from a directory that
does not exist leads nowhere, although its normal form may.
-/

namespace ImpactGraph

open Text

/-- Why a file cannot be read. -/
inductive FileError where
  | missing
  | notDirectory
  | isDirectory
  | denied
  | noDevice
  | nullByte
  deriving DecidableEq, Repr

namespace FileError

/-- The number and the words of the system for a cause. -/
def reason : FileError → Nat × Text
  | missing => (2, "No such file or directory".toList)
  | noDevice => (6, "No such device or address".toList)
  | denied => (13, "Permission denied".toList)
  | notDirectory => (20, "Not a directory".toList)
  | isDirectory => (21, "Is a directory".toList)
  | nullByte => (0, "embedded null byte".toList)

/-- What is said when a file of this path cannot be opened. -/
def message (path : Text) : FileError → Text
  | nullByte => "embedded null byte".toList
  | cause =>
    "[Errno ".toList ++ Text.ofNat cause.reason.1 ++ "] ".toList ++ cause.reason.2 ++
      ": ".toList ++
      quoted path

end FileError

/-- A file that could not be read, and why. -/
structure Unreadable where
  path : Text
  cause : FileError
  deriving DecidableEq, Repr

/-- What is said about a file that could not be read. -/
def Unreadable.message (u : Unreadable) : Text := u.cause.message u.path

/-- Files and directories by name. -/
inductive FileTree where
  | file (bytes : List UInt8)
  | closed
  /-- A device, a pipe or a socket. The first two give some bytes to whoever opens them; a
  socket cannot be opened. -/
  | special (served : Option (List UInt8))
  | directory (entries : List (Text × FileTree))

namespace FileTree

/-- The entries of a directory; other trees have none. -/
def entries : FileTree → List (Text × FileTree)
  | directory entries => entries
  | _ => []

/-- Whether a tree is a directory. -/
def isDirectory : FileTree → Bool
  | directory _ => true
  | _ => false

/-- Whether a tree is a regular file. -/
def isFile : FileTree → Bool
  | file _ | closed => true
  | special _ | directory _ => false

/-- An entry of a name list put in the place of the one it replaces, else at the end. -/
def replaceEntry (name : Text) (tree : FileTree) (entries : List (Text × FileTree)) :
    List (Text × FileTree) :=
  if entries.any (·.1 = name) then
    entries.map fun entry => if entry.1 = name then (name, tree) else entry
  else entries ++ [(name, tree)]

/-- The tree with another tree at a place; directories on the way are made where they are
missing. -/
def insert (tree : FileTree) : List Text → FileTree → FileTree
  | [], item => item
  | name :: names, item =>
    let next := (tree.entries.lookup name).getD (directory [])
    directory (replaceEntry name (insert next names item) tree.entries)

/-- The tree without what is at a place. -/
def erase (tree : FileTree) : List Text → FileTree
  | [] => directory []
  | [name] =>
    match tree with
    | directory entries => directory (entries.filter (·.1 ≠ name))
    | other => other
  | name :: names =>
    match tree.entries.lookup name with
    | some next => directory (replaceEntry name (erase next names) tree.entries)
    | none => tree

end FileTree

/-- A place in a file tree: the directories passed on the way, the deepest first, each
with the name of the entry taken, and what is there. -/
structure Place where
  trail : List (Text × FileTree)
  here : FileTree

namespace Place

/-- The names on the way from the top. -/
def location (place : Place) : List Text := (place.trail.map (·.1)).reverse

/-- One step of a walk. -/
def enter (place : Place) (component : Text) : Except FileError Place :=
  if !place.here.isDirectory then .error .notDirectory
  else if component = [] || component = ['.'] then .ok place
  else if component = ['.', '.'] then
    match place.trail with
    | [] => .ok place
    | (_, back) :: trail => .ok ⟨trail, back⟩
  else
    match place.here.entries.lookup component with
    | some next => .ok ⟨(component, place.here) :: place.trail, next⟩
    | none => .error .missing

end Place

/-- What the program runs in: the file system, the directory that relative paths start
from, and how many calls of one function may be open at once before the interpreter gives
up. -/
structure Workspace where
  tree : FileTree
  cwd : Text
  stack : Nat := 950

namespace Workspace

/-- The place a path leads to. -/
def lookup (w : Workspace) (path : Text) : Except FileError Place :=
  if Char.ofNat 0 ∈ path then .error .nullByte
  else if path = [] then .error .missing
  else ((Path.join w.cwd path).split '/').foldlM Place.enter ⟨[], w.tree⟩

/-- Whether a path leads to a regular file, closed or not. -/
def isFile (w : Workspace) (path : Text) : Bool :=
  match w.lookup path with
  | .ok place => place.here.isFile
  | .error _ => false

/-- Whether a path leads to a directory. -/
def isDirectory (w : Workspace) (path : Text) : Bool :=
  match w.lookup path with
  | .ok place => place.here.isDirectory
  | .error _ => false

/-- The bytes of the file a path leads to. -/
def read (w : Workspace) (path : Text) : Except FileError (List UInt8) :=
  match w.lookup path with
  | .error cause => .error cause
  | .ok place =>
    match place.here with
    | .file bytes => .ok bytes
    | .closed => .error .denied
    | .special (some bytes) => .ok bytes
    | .special none => .error .noDevice
    | .directory _ => .error .isDirectory

/-- The text of a source file: faults replaced, line ends made one. -/
def readText (w : Workspace) (path : Text) : Except FileError Text :=
  (w.read path).map fun bytes => unixLines (decodeLossy bytes)

/-- The id of a file named by a path, read from a root. -/
def canonical (w : Workspace) (root path : Text) : Text := Path.canonical w.cwd root path

/-- The workspace with a tree at a path; directories on the way are made. -/
def put (w : Workspace) (path : Text) (item : FileTree) : Workspace :=
  { w with tree := w.tree.insert (Path.components (Path.join w.cwd path)) item }

/-- The workspace without what a path names. -/
def remove (w : Workspace) (path : Text) : Workspace :=
  { w with tree := w.tree.erase (Path.components (Path.join w.cwd path)) }

/-- What a file is written over, or why it cannot be written: its directory must exist,
and it must not be a directory itself nor be closed. A device or a pipe takes the text and
is what it was. -/
def write (w : Workspace) (path text : Text) : Except FileError Workspace :=
  let place := Path.join w.cwd path
  match w.lookup path with
  | .ok found =>
    match found.here with
    | .directory _ => .error .isDirectory
    | .closed => .error .denied
    | .special (some _) => .ok w
    | .special none => .error .noDevice
    | .file _ => .ok { w with tree := w.tree.insert found.location (.file (encode text)) }
  | .error .missing =>
    match w.lookup (Path.join (Path.parent place) ['.']) with
    | .ok directory =>
      let name := Path.baseName place
      if name = [] then .error .isDirectory
      else
        let tree := w.tree.insert (directory.location ++ [name]) (.file (encode text))
        .ok { w with tree }
    | .error cause => .error cause
  | .error cause => .error cause

end Workspace

end ImpactGraph
