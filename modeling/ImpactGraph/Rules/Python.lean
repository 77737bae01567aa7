import ImpactGraph.Calls
import ImpactGraph.Resolve.Python
import ImpactGraph.Rules.Inline

/-!
# Declarations of Python

Imports from a package come first, then plain imports, then top-level definitions and the
names that the export list spells out. A name imported from a package may be a module of
its own; then the edge leads to that module, and the package is an edge only when another
name needs it.
-/

namespace ImpactGraph.Rules.Python

open Text Pattern

/-- A character that does not end a statement. -/
def isStatementChar (c : Char) : Bool := !(c = '\n' || c = '#' || c = ';')

/-- An import of names from a package. -/
def fromImport : Pattern :=
  lineStart ++ inlineGap ++ word "from" ++ inlineSpace ++
  keep .source (orElse (many1 (· = '.') ++ many isDottedChar) (many1 isDottedChar)) ++
  inlineSpace ++ word "import" ++ inlineSpace ++
  keep .clause (orElse (word "(" ++ many (· ≠ ')') ++ word ")") (many1 isStatementChar))

/-- An import of modules. -/
def plainImport : Pattern :=
  lineStart ++ inlineGap ++ word "import" ++ inlineSpace ++
    keep .clause (many1 isStatementChar)

/-- A definition that is not indented. -/
def topLevelDefinition : Pattern :=
  orElse
    (lineStart ++ optional (word "async" ++ inlineSpace) ++ word "def" ++ inlineSpace ++
      keep .name (many1 isWord))
    (lineStart ++ word "class" ++ inlineSpace ++ keep .name (many1 isWord))

/-- A definition at any depth. -/
def anyDefinition : Pattern :=
  lineStart ++ inlineGap ++ optional (word "async" ++ inlineSpace) ++
    anyWord ["def", "class"] ++
  inlineSpace ++ keep .name (many1 isWord)

/-- The list of exported names. -/
def exportList : Pattern :=
  lineStart ++ word "__all__" ++ many isBlank ++
  optional (word ":" ++ many (fun c => !(c = '=' || c = '\n'))) ++
    optional (word "+") ++ word "=" ++
  many isBlank ++ one (fun c => c = '[' || c = '(') ++
  keep .clause (many fun c => !(c = ']' || c = ')')) ++ one (fun c => c = ']' || c = ')')

/-- A name in quotes. -/
def quotedName : Pattern :=
  one (fun c => c = '\'' || c = '"') ++ keep .name (many1 isWord) ++
  one (fun c => c = '\'' || c = '"')

/-- A text without its comments, each from a number sign to the end of its line. -/
def dropComments : Text → Text
  | [] => []
  | c :: rest =>
    if c = '#' then dropLine rest else c :: dropComments rest
where
  /-- What follows a number sign. -/
  dropLine : Text → Text
    | [] => []
    | c :: rest => if c = '\n' then c :: dropComments rest else dropLine rest

/-- A name and the alias after it, when there is one. -/
def splitAlias (part : Text) : Text × Option Text :=
  let renamed := strip (after " as ".toList part)
  (strip (before " as ".toList part), if renamed = [] then none else some renamed)

/-- The entries of an import from a package, with comments and parentheses gone. -/
def importedNames (clause : Text) : List (Text × Option Text) :=
  let bare := trimWhile (fun c => c = '(' || c = ')') (strip (dropComments clause))
  (names (singleSpaced bare)).map splitAlias

/-- What one name of an import from a package finds, and whether it needs the package
itself. -/
def nameFindings (w : Workspace) (root file package target : Text) (line : Nat)
    (entry : Text × Option Text) : List Finding × Bool :=
  if entry.1 = ['*'] then
    ([.imports ⟨['*'], target, .whole, package, line, none⟩], true)
  else if !isIdentifier entry.1 then ([], false)
  else
    match Resolve.pythonSubmodule? w root file package entry.1 with
    | some submodule =>
      ([.dependsOn submodule,
        .imports ⟨entry.1, submodule, .named, package, line, entry.2⟩], false)
    | none => ([.imports ⟨entry.1, target, .named, package, line, entry.2⟩], true)

/-- What an import from a package finds. -/
def fromFindings (w : Workspace) (root file package clause : Text) (line : Nat) :
    List Finding :=
  let target := Resolve.python w root file package
  let found := (importedNames clause).map (nameFindings w root file package target line)
  found.flatMap (·.1) ++ (if found.any (·.2) then [.dependsOn target] else [])

/-- What a plain import finds. -/
def plainFindings (w : Workspace) (root file clause : Text) (line : Nat) : List Finding :=
  ((names clause).map splitAlias).flatMap fun entry =>
    if (split '.' entry.1).all isIdentifier then
      let target := Resolve.python w root file entry.1
      [.imports ⟨entry.1, target, .whole, entry.1, line, entry.2⟩, .dependsOn target]
    else []

/-- The findings of a file, in the order of the passes. -/
def findings (w : Workspace) (root file content : Text) : List Finding :=
  (fromImport.findAll content).flatMap (fun m =>
    fromFindings w root file (m.part .source) (m.part .clause)
      (lineAt content m.start)) ++
  (plainImport.findAll content).flatMap (fun m =>
    plainFindings w root file (m.part .clause) (lineAt content m.start)) ++
  (topLevelDefinition.findAll content).map (fun m => .exports (m.part .name)) ++
  (exportList.findAll content).flatMap fun m =>
    (quotedName.findAll (m.part .clause)).map fun name => .exports (name.part .name)

/-- The calls between the definitions and exports of a file. -/
def calls (content : Text) (facts : FileFacts) : List Call :=
  let definitions := definitionsOf anyDefinition content
  callsBetween content definitions (facts.exports ++ definitions.map (·.name))
    (facts.imports.map fun i => before ['.'] i.localName)

end ImpactGraph.Rules.Python
