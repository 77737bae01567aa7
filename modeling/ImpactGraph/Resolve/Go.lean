import ImpactGraph.FileTree
import ImpactGraph.Pattern.Basic

/-!
# Targets of Go imports

An import path names a package, so targets are directories. A path inside the module that
the project's module file declares maps below the root, and any other to the vendor
directory. The module file is read for every import; when it exists and cannot be read,
resolution fails.
-/

namespace ImpactGraph.Resolve

open Text

/-- The place of external packages of Go and of external crates of Rust. -/
def vendorDirectory : Text := "vendor".toList

/-- The line that declares the module. -/
def moduleLine : Pattern :=
  .lineStart ++ .many isBlank ++ .word "module" ++ .many1 isBlank ++
  .keep .name (.many1 fun c => !isBlank c)

/-- The module that the file below a root declares; none when there is no file or no
declaration. -/
def goModule (w : Workspace) (root : Text) : Except Unreadable (Option Text) :=
  let path := Path.join root "go.mod".toList
  match w.readText path with
  | .ok content => .ok ((moduleLine.find? content).bind (·.part? .name))
  | .error .missing => .ok none
  | .error cause => .error ⟨path, cause⟩

/-- The target of an import path when the project's module is known. -/
def goWithin (w : Workspace) (root : Text) (module : Option Text) (path : Text) : Text :=
  match module with
  | some name =>
    if path = name || startsWith path (name ++ ['/']) then
      let rest := (path.drop name.length).dropWhile (· = '/')
      w.canonical root (if rest = [] then ['.'] else rest)
    else Path.external w.cwd root vendorDirectory path
  | none => Path.external w.cwd root vendorDirectory path

/-- The target of an import path. -/
def go (w : Workspace) (root file path : Text) : Except Unreadable Text :=
  let top := w.canonical root ['.']
  if path.head? = some '.' then .ok (w.canonical top (Path.join (Path.parent file) path))
  else (goModule w top).map fun module => goWithin w top module path

end ImpactGraph.Resolve
