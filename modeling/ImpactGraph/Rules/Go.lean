import ImpactGraph.Calls
import ImpactGraph.Resolve.Go
import ImpactGraph.Rules.Inline

/-!
# Declarations of Go

Imports stand alone or in a group; each names a package and may give it an alias. Exported
names start with a capital letter of ASCII. Reading the module file may fail, and then the
file has no facts.
-/

namespace ImpactGraph.Rules.Go

open Text Pattern

/-- A package path in double quotes, with the alias in front of it. -/
def packagePath : Pattern :=
  optional (keep .renamed (many1 isDottedChar) ++ inlineSpace) ++ word "\"" ++
  keep .source (many1 fun c => !(c = '"' || c = '\n')) ++ word "\""

/-- An import that stands alone. -/
def singleImport : Pattern :=
  lineStart ++ inlineGap ++ word "import" ++ inlineSpace ++ packagePath

/-- A list in parentheses. -/
def group : Pattern := word "(" ++ keep .clause (many (· ≠ ')')) ++ word ")"

/-- A group of imports. -/
def importGroup : Pattern := lineStart ++ inlineGap ++ word "import" ++ inlineGap ++ group

/-- One import of a group. -/
def groupEntry : Pattern := lineStart ++ inlineGap ++ packagePath

/-- A name that starts with a capital letter. -/
def exportedName : Pattern :=
  keep .name (one (fun c => 'A' ≤ c && c ≤ 'Z') ++ many isWord)

/-- An exported function or method. -/
def function : Pattern :=
  lineStart ++ word "func" ++ inlineSpace ++
  optional (word "(" ++ many (· ≠ ')') ++ word ")" ++ inlineGap) ++ exportedName

/-- The words that begin a declaration. -/
def declarationWord : Pattern := anyWord ["type", "const", "var"]

/-- An exported declaration. -/
def declaration : Pattern := lineStart ++ declarationWord ++ inlineSpace ++ exportedName

/-- A group of declarations. -/
def declarationGroup : Pattern := lineStart ++ declarationWord ++ inlineGap ++ group

/-- One exported name of a group. -/
def groupName : Pattern := lineStart ++ inlineGap ++ exportedName

/-- The last component of a package path. -/
def symbolOf (path : Text) : Text := afterLast ['/'] (dropWhileEnd (· = '/') path)

/-- What one import finds. -/
def importFindings (w : Workspace) (root file : Text)
    (renamed : Option Text) (path : Text) (line : Nat) :
    Except Unreadable (List Finding) :=
  (Resolve.go w root file path).map fun target =>
    [.imports ⟨symbolOf path, target, .whole, path, line,
      renamed.filter (· ≠ symbolOf path)⟩, .dependsOn target]

/-- The aliases, paths and lines of the imports of a text: those that stand alone, then
those in groups. -/
def importSpecs (content : Text) : List (Option Text × Text × Nat) :=
  (singleImport.findAll content).map (fun m =>
    (m.part? .renamed, m.part .source, lineAt content m.start)) ++
  (importGroup.findAll content).flatMap fun block =>
    (groupEntry.findAll (block.part .clause)).map fun m =>
      (m.part? .renamed, m.part .source,
        lineAt content (block.startOf .clause + m.startOf .source))

/-- The exported names of a text. -/
def exportedNames (content : Text) : List Text :=
  (function.findAll content).map (·.part .name) ++
  (declaration.findAll content).map (·.part .name) ++
  (declarationGroup.findAll content).flatMap fun block =>
    (groupName.findAll (block.part .clause)).map (·.part .name)

/-- The findings of a file, in the order of the passes. -/
def findings (w : Workspace) (root file content : Text) :
    Except Unreadable (List Finding) :=
  ((importSpecs content).mapM fun spec =>
    importFindings w root file spec.1 spec.2.1 spec.2.2).map
    fun imports => imports.flatten ++ (exportedNames content).map .exports

end ImpactGraph.Rules.Go
