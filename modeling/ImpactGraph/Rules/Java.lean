import ImpactGraph.Facts.Basic
import ImpactGraph.Resolve.Java
import ImpactGraph.Rules.Inline

/-!
# Declarations of Java

Imports name classes, members or whole packages; the exports are the public top-level
types.
-/

namespace ImpactGraph.Rules.Java

open Text Pattern

/-- An import declaration. -/
def importDeclaration : Pattern :=
  lineStart ++ inlineGap ++ word "import" ++ inlineSpace ++
  optional (keep .isStatic (word "static" ++ inlineSpace)) ++
  keep .source (one isDottedChar ++ few isDottedChar) ++
    optional (keep .wildcard (word ".*")) ++
  inlineGap ++ word ";"

/-- A public type that is not indented. -/
def publicType : Pattern :=
  lineStart ++ word "public" ++ inlineSpace ++
  iterate (anyWord ["abstract", "final", "sealed", "non-sealed", "static", "strictfp"] ++
    inlineSpace) ++
  anyWord ["class", "interface", "enum", "record", "@interface"] ++ inlineSpace ++
  keep .name (many1 isWord)

/-- What one import finds. -/
def importFindings (w : Workspace) (root qualified : Text) (isStatic wildcard : Bool)
    (line : Nat) : List Finding :=
  let target := Resolve.java w root qualified isStatic wildcard
  let found : Import :=
    if wildcard then ⟨['*'], target, .whole, qualified ++ ".*".toList, line, none⟩
    else ⟨afterLast ['.'] qualified, target, .named, qualified, line, none⟩
  [.imports found, .dependsOn target]

/-- The findings of a file, in the order of the passes. -/
def findings (w : Workspace) (root content : Text) : List Finding :=
  (importDeclaration.findAll content).flatMap (fun m =>
    importFindings w root (m.part .source) (m.part? .isStatic).isSome
      (m.part? .wildcard).isSome
      (lineAt content m.start)) ++
  (publicType.findAll content).map fun m => .exports (m.part .name)

end ImpactGraph.Rules.Java
