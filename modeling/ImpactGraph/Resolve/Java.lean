import ImpactGraph.FileTree

/-!
# Targets of Java imports

A qualified name is a source file below one of the source roots; with a star it is a
package directory. The last part of a static import without a star names a member and is
left out.
-/

namespace ImpactGraph.Resolve

open Text

/-- The source roots tried, in order. -/
def javaSourceRoots : List Text := [[], "src/main/java".toList, "src".toList]

/-- The path of a qualified name below a source root. -/
def javaRelative (qualified : Text) (isStatic wildcard : Bool) : Text :=
  let parts := qualified.split '.'
  let kept :=
    if isStatic && !wildcard && decide (1 < parts.length) then parts.dropLast else parts
  if wildcard then Path.joinAll [] kept else Path.joinAll [] kept ++ ".java".toList

/-- The target of an import. -/
def java (w : Workspace) (root qualified : Text) (isStatic wildcard : Bool) : Text :=
  let relative := javaRelative qualified isStatic wildcard
  let candidates := javaSourceRoots.map fun source =>
    w.canonical root (Path.join source relative)
  (candidates.find? fun path => if wildcard then w.isDirectory path else
    w.isFile path).getD
    (w.canonical root relative)

end ImpactGraph.Resolve
