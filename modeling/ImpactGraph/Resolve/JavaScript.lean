import ImpactGraph.FileTree

/-!
# Targets of JavaScript and TypeScript imports

A specifier that starts with a dot names a file next to the importing one. Fourteen
candidates are tried, the path with each suffix and the index file with that suffix, and
the first file wins; when there is none the plain path stays as a dangling target. Any
other specifier is an external package.
-/

namespace ImpactGraph.Resolve

open Text

/-- The place of packages that are not part of the project. -/
def packagesDirectory : Text := "node_modules".toList

/-- The suffixes tried, in order. -/
def scriptSuffixes : List Text :=
  [".ts".toList, ".tsx".toList, ".js".toList, ".jsx".toList, ".mjs".toList,
    ".cjs".toList, []]

/-- The files a relative specifier may mean, the preferred one first. -/
def scriptCandidates (base : Text) : List Text :=
  scriptSuffixes.flatMap fun suffix =>
    [base ++ suffix, Path.join base ("index".toList ++ suffix)]

/-- The target of a module specifier. -/
def javascript (w : Workspace) (root file source : Text) : Text :=
  if source.head? = some '.' then
    let base := w.canonical root (Path.join (Path.parent file) source)
    ((scriptCandidates base).find? w.isFile).getD base
  else Path.external w.cwd root packagesDirectory source

end ImpactGraph.Resolve
