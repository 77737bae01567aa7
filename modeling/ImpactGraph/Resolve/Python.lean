import ImpactGraph.FileTree

/-!
# Targets of Python imports

A dotted module is a file or a package directory. Leading dots climb from the importing
file's own package; a module without them is looked up below the root.
-/

namespace ImpactGraph.Resolve

open Text

/-- The files that may hold a module, the preferred one first. -/
def pythonCandidates (base : Text) : List Text :=
  [base ++ ".py".toList, Path.join base "__init__.py".toList]

/-- The directory a number of levels up. -/
def climb (directory : Text) : Nat → Text
  | 0 => directory
  | n + 1 => climb (Path.parent directory) n

/-- The path of a module without the ending of its file. -/
def pythonBase (w : Workspace) (root file module : Text) : Text :=
  if module.head? = some '.' then
    let level := (module.takeWhile (· = '.')).length
    let rest := module.drop level
    let package := climb (Path.parent file) (level - 1)
    w.canonical root (if rest = [] then package else
      Path.joinAll package (split '.' rest))
  else w.canonical root (Path.joinAll [] (split '.' module))

/-- The target of a module. -/
def python (w : Workspace) (root file module : Text) : Text :=
  let base := pythonBase w root file module
  ((pythonCandidates base).find? w.isFile).getD base

/-- The target of a name imported from a package, when the name is a module with a
file. -/
def pythonSubmodule? (w : Workspace) (root file package name : Text) : Option Text :=
  let module := if package.getLast? = some '.' then package ++ name else
    package ++ '.' :: name
  let target := python w root file module
  if w.isFile target then some target else none

end ImpactGraph.Resolve
