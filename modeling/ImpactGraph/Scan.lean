import ImpactGraph.Exclusion
import ImpactGraph.FileTree
import ImpactGraph.Settings.Basic
import ImpactGraph.Text.LowerCase

/-!
# Scanning

The files of a project, found by walking its directories. Names that begin with a dot,
excluded paths and files of other extensions are passed over, and an excluded directory is
not entered. A directory's own files come before those of its subdirectories, both in the
order of their names. What is no directory is taken for a file, be it a device, a pipe or
a socket.
-/

namespace ImpactGraph

open Text

/-- What a walk keeps. -/
structure ScanRules where
  /-- The id of a path. -/
  idOf : Text → Text
  /-- The extensions of the files that are kept, in lower case. -/
  extensions : List Text
  excluded : List Text

namespace ScanRules

/-- The rules that settings give for the project below a root. -/
def ofSettings (w : Workspace) (root : Text) (s : AnalyzerSettings) : ScanRules :=
  ⟨w.canonical root, s.includePatterns.map lower, s.excludePatterns⟩

/-- Whether a directory is entered. -/
def entersDirectory (rules : ScanRules) (name path : Text) : Bool :=
  name.head? ≠ some '.' && !Exclusion.excludes rules.excluded (rules.idOf path)

/-- Whether a file is kept. -/
def keepsFile (rules : ScanRules) (name path : Text) : Bool :=
  name.head? ≠ some '.' && lower (Path.splitName name).2 ∈ rules.extensions &&
    !Exclusion.excludes rules.excluded (rules.idOf path)

end ScanRules

/-- What the walk of one entry gives: the id of a file that is kept, or the ids of the
files kept below a directory. -/
inductive Walked where
  | file (id : Text)
  | directory (ids : List Text)

/-- The order of named things by name. -/
def byName {α : Type} (a b : Text × α) : Bool := Text.le a.1 b.1

/-- The files among walked entries, in the order of their names, then those below
directories. -/
def Walked.ids (walked : List (Text × Walked)) : List Text :=
  let sorted := walked.mergeSort byName
  (sorted.filterMap fun w => match w.2 with
    | .file id => some id
    | .directory _ => none) ++
  sorted.flatMap fun w => match w.2 with
    | .file _ => []
    | .directory ids => ids

mutual

/-- What the walk of an entry at a path gives. -/
def FileTree.walk (rules : ScanRules) (name path : Text) : FileTree → List Walked
  | .directory entries =>
    if rules.entersDirectory name path then
      [.directory (Walked.ids (FileTree.walkEntries rules path entries))]
    else []
  | .file _ | .closed | .special _ =>
    if rules.keepsFile name path then [.file (rules.idOf path)] else []

/-- What the walks of the entries of a directory give, by name. -/
def FileTree.walkEntries (rules : ScanRules) (directory : Text) :
    List (Text × FileTree) → List (Text × Walked)
  | [] => []
  | (name, tree) :: entries =>
    (FileTree.walk rules name (Path.join directory name) tree).map (name, ·) ++
      FileTree.walkEntries rules directory entries

end

/-- The files of the project below a root; none when the root is no directory. -/
def scan (w : Workspace) (root : Text) (settings : AnalyzerSettings) : List Text :=
  let top := w.canonical root ['.']
  match w.lookup top with
  | .ok ⟨_, .directory entries⟩ =>
    Walked.ids (FileTree.walkEntries (.ofSettings w top settings) top entries)
  | _ => []

end ImpactGraph
