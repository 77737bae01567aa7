import ImpactGraph.Resolve.Go
import ImpactGraph.Text.Lemmas

/-!
# Targets of Rust declarations

A module declaration names a file in the directory of its parent's children. A path of a
use declaration starts at the crate's source directory, at the current module, at one of
its parents, or at an external crate. Its last segments may name items and not modules, so
the longest beginning of the path that is a file wins.
-/

namespace ImpactGraph.Resolve

open Text

/-- The directory that holds the child modules of a file. -/
def rustChildren (file : Text) : Text :=
  let name := Path.baseName file
  if name ∈ ["lib.rs".toList, "main.rs".toList, "mod.rs".toList] then Path.parent file
  else Path.join (Path.parent file) (Path.stem name)

/-- The files that may hold the module of a path, the preferred one first. -/
def rustCandidates (base : Text) : List Text :=
  [base ++ ".rs".toList, Path.join base "mod.rs".toList]

/-- The target of a module declaration. -/
def rustModule (w : Workspace) (file name : Text) : Text :=
  let base := Path.join (rustChildren file) name
  ((rustCandidates base).find? w.isFile).getD (base ++ ".rs".toList)

/-- The beginnings of a path, the longest first; the empty one is left out. -/
def longestFirst (segments : List Text) : List (List Text) :=
  (List.range segments.length).reverse.map fun n => segments.take (n + 1)

/-- The file of the longest beginning of a path below a directory. -/
def rustProbe (w : Workspace) (base : Text) (segments : List Text) : Option Text :=
  ((longestFirst segments).flatMap fun path =>
    rustCandidates (Path.joinAll base path)).find? w.isFile

/-- A parent is the path itself or is shorter. -/
theorem parent_length (path : Text) (h : Path.parent path ≠ path) :
    (Path.parent path).length < path.length := by
  have sub : Path.parent path <+: path := by
    simp only [Path.parent]
    split
    · exact dropWhileEnd_isPrefix _ path
    · exact (dropWhileEnd_isPrefix _ _).trans (dropWhileEnd_isPrefix _ path)
  exact Nat.lt_of_le_of_ne sub.length_le fun e => h (sub.eq_of_length e)

/-- The source directory of the crate a directory belongs to: the nearest directory with a
crate file, upwards while the path starts with the root's. -/
def crateSource (w : Workspace) (root directory : Text) : Text :=
  if startsWith directory root then
    if w.isFile (Path.join directory "Cargo.toml".toList) then
      Path.join directory "src".toList
    else if _h : Path.parent directory = directory then Path.join root "src".toList
    else crateSource w root (Path.parent directory)
  else Path.join root "src".toList
termination_by directory.length
decreasing_by exact parent_length directory _h

/-- The directory reached by the leading `super` segments of a path, and the segments
after them. -/
def climbSupers (directory : Text) : List Text → Text × List Text
  | segment :: rest =>
    if segment = "super".toList then climbSupers (Path.parent directory) rest
    else (directory, segment :: rest)
  | [] => (directory, [])

/-- The crates that belong to the language. -/
def standardCrates : List Text := ["std".toList, "core".toList, "alloc".toList]

/-- The non-empty segments of a path between double colons. -/
def segments (path : Text) : List Text := (splitAtText "::".toList path).filter (· ≠ [])

/-- The target of a path below a directory where the file that defines it is sought. -/
def rustBelow (w : Workspace) (root base : Text) (path : List Text) : Text :=
  match path with
  | [] => w.canonical root base
  | _ =>
    match rustProbe w base path with
    | some found => w.canonical root found
    | none =>
      let kept := if 1 < path.length then path.dropLast else path
      w.canonical root (Path.joinAll base kept ++ ".rs".toList)

/-- The target of the path of a use declaration. -/
def rust (w : Workspace) (root file path : Text) : Text :=
  let top := w.canonical root ['.']
  match segments path with
  | [] => w.canonical top file
  | head :: rest =>
    if head = "crate".toList then
      rustBelow w top (crateSource w top (Path.parent file)) rest
    else if head = "self".toList then rustBelow w top (rustChildren file) rest
    else if head = "super".toList then
      let (base, rest) := climbSupers (rustChildren file) (head :: rest)
      rustBelow w top base rest
    else if head ∈ standardCrates then Path.external w.cwd top vendorDirectory head
    else
      match rustProbe w (rustChildren file) (head :: rest) with
      | some found => w.canonical top found
      | none => Path.external w.cwd top vendorDirectory head

end ImpactGraph.Resolve
