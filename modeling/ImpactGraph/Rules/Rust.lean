import ImpactGraph.Facts.Basic
import ImpactGraph.Resolve.Rust
import ImpactGraph.Rules.Inline
import ImpactGraph.Rules.UseTree

/-!
# Declarations of Rust

Module declarations come first, then use declarations with their trees expanded, then the
public items, which are the exports. A use tree that takes more calls than the
interpreter's stack holds ends the extraction of the whole file.
-/

namespace ImpactGraph.Rules.Rust

open Text Pattern

/-- The mark of a public item, which may be missing and may be restricted. -/
def visibility : Pattern :=
  optional (word "pub" ++
    optional (word "(" ++ many (· ≠ ')') ++ word ")") ++ inlineSpace)

/-- A use declaration. -/
def useDeclaration : Pattern :=
  lineStart ++ inlineGap ++ visibility ++ word "use" ++ inlineSpace ++
  keep .clause (many1 (· ≠ ';')) ++ word ";"

/-- A module declaration without a body. -/
def moduleDeclaration : Pattern :=
  lineStart ++ inlineGap ++ visibility ++ word "mod" ++ inlineSpace ++
    keep .name (many1 isWord) ++
  inlineGap ++ word ";"

/-- The words that may stand between `pub` and the kind of an item. -/
def qualifier : Pattern :=
  anyOf [word "async", word "const", word "unsafe",
    word "extern" ++
      optional (inlineSpace ++ word "\"" ++ many (· ≠ '"') ++ word "\"")] ++
  inlineSpace

/-- A public item. -/
def publicItem : Pattern :=
  lineStart ++ inlineGap ++ word "pub" ++ inlineSpace ++ iterate qualifier ++
  anyWord ["fn", "struct", "enum", "trait", "type", "const", "static", "mod", "union"] ++
  inlineSpace ++ keep .name (many1 isWord)

/-- What a module declaration finds. -/
def moduleFindings (w : Workspace) (file name : Text) (line : Nat) : List Finding :=
  let target := Resolve.rustModule w file name
  [.imports ⟨name, target, .whole, "mod ".toList ++ name, line, none⟩, .dependsOn target]

/-- What one path of a use declaration finds. -/
def useFindings (w : Workspace) (root file entry : Text) (line : Nat) : List Finding :=
  let path := strip (before " as ".toList entry)
  let renamed := strip (after " as ".toList entry)
  let glob := endsWith path "::*".toList
  let path := if glob then path.take (path.length - 3) else path
  let target := Resolve.rust w root file path
  [.imports ⟨if glob then ['*'] else afterLast "::".toList path, target,
      if glob then .whole else .named, entry, line, if renamed = [] then none else
        some renamed⟩,
    .dependsOn target]

/-- What the use declarations of a text find. One that takes more calls than the stack
holds leaves the whole text without findings. -/
def declaredUses (w : Workspace) (root file content : Text) :
    Except UseTree.Fault (List Finding) :=
  ((useDeclaration.findAll content).mapM fun m =>
    (UseTree.expandWithin w.stack (m.part .clause) []).map fun entries =>
      entries.flatMap fun entry =>
        useFindings w root file entry (lineAt content m.start)).map
  List.flatten

/-- The findings of a file, in the order of the passes. -/
def findings (w : Workspace) (root file content : Text) :
    Except UseTree.Fault (List Finding) :=
  (declaredUses w root file content).map fun uses =>
    (moduleDeclaration.findAll content).flatMap (fun m =>
      moduleFindings w file (m.part .name) (lineAt content m.start)) ++
    uses ++ (publicItem.findAll content).map fun m => .exports (m.part .name)

end ImpactGraph.Rules.Rust
