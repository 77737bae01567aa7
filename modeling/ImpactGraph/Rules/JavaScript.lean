import ImpactGraph.Calls
import ImpactGraph.Resolve.JavaScript

/-!
# Declarations of JavaScript and TypeScript

Seven passes over a text: imports with names, imports for their effects, calls of
`require`, re-exports, exported declarations, export lists, and default exports of a name.
Each pass is a pattern and the findings of one match.
-/

namespace ImpactGraph.Rules.JavaScript

open Text Pattern

/-- Characters of a name: word characters and the dollar sign. -/
def isNameChar (c : Char) : Bool := isIdentifierPart c

/-- A module specifier in quotes that match. -/
def specifier : Pattern :=
  keep .quote (one fun c => c = '\'' || c = '"') ++
  keep .source (many1 fun c => !(c = '\'' || c = '"' || c = '\n')) ++ again .quote

/-- A list in braces. -/
def braced : Pattern := word "\x7b" ++ many (· ≠ '}') ++ word "\x7d"

/-- A name. -/
def identifier : Pattern := many1 isNameChar

/-- Blanks that may be missing. -/
def gap : Pattern := many isBlank

/-- At least one blank. -/
def space : Pattern := many1 isBlank

/-- The word that marks a declaration as one of types only. -/
def typeMark : Pattern := optional (keep .typeOnly (word "type" ++ space))

/-- Characters of the names, stars and braces between `import` and `from`. -/
def isClauseChar (c : Char) : Bool :=
  isWord c || isBlank c || c = '$' || c = '*' || c = '{' || c = '}' || c = ','

/-- An import with names. -/
def importFrom : Pattern :=
  boundary ++ word "import" ++ space ++ typeMark ++
  keep .clause (one isClauseChar ++ few isClauseChar) ++ gap ++ boundary ++
    word "from" ++ gap ++
  specifier

/-- An import for its effects. -/
def importBare : Pattern := boundary ++ word "import" ++ gap ++ specifier

/-- The word that declares a binding. -/
def bindingWord : Pattern := anyWord ["const", "let", "var"]

/-- A call of `require`, with the binding that takes its value. -/
def requireCall : Pattern :=
  optional (boundary ++ bindingWord ++ space ++
    keep .clause (orElse identifier braced) ++ gap ++
    word "=" ++ gap) ++
  boundary ++ word "require" ++ gap ++ word "(" ++ gap ++ specifier ++ gap ++ word ")"

/-- An export of what another module exports. -/
def reexport : Pattern :=
  boundary ++ word "export" ++ space ++ typeMark ++
  keep .clause
    (orElse (word "*" ++
      optional (space ++ word "as" ++ space ++ keep .renamed identifier)) braced) ++
  gap ++ word "from" ++ gap ++ specifier

/-- An exported declaration. -/
def exportDeclaration : Pattern :=
  boundary ++ word "export" ++ space ++ optional (word "default" ++ space) ++
  optional (word "declare" ++ space) ++ optional (word "abstract" ++ space) ++
  optional (word "async" ++ space) ++
  orElse (word "function" ++ gap ++ optional (word "*"))
    (anyWord ["class", "const", "let", "var", "interface", "type",
      "enum", "namespace"]) ++
  space ++ keep .name identifier

/-- A list of exported names. -/
def exportList : Pattern :=
  boundary ++ word "export" ++ space ++ optional (word "type" ++ space) ++ word "\x7b" ++
  keep .clause (many (· ≠ '}')) ++ word "\x7d"

/-- A name exported as the default. -/
def exportDefault : Pattern :=
  boundary ++ word "export" ++ space ++ word "default" ++ space ++
    keep .name identifier ++ gap ++
  orElse (word ";") lineEnd

/-- The definition of a function. -/
def functionDefinition : Pattern :=
  boundary ++ optional (word "async" ++ space) ++ word "function" ++ gap ++
    optional (word "*") ++
  gap ++ keep .name identifier ++ gap ++ word "("

/-- A type after a colon. -/
def typeAnnotation : Pattern := optional (word ":" ++ many1 (· ≠ '='))

/-- A binding whose value is a function. -/
def arrowDefinition : Pattern :=
  boundary ++ bindingWord ++ space ++ keep .name identifier ++ gap ++
    typeAnnotation ++ word "=" ++
  gap ++ optional (word "async" ++ space) ++
  anyOf [
    word "function" ++ boundary,
    word "(" ++ many (· ≠ ')') ++ word ")" ++ gap ++ typeAnnotation ++ word "=>",
    identifier ++ gap ++ word "=>"]

/-- Words after `export default` that begin a declaration. -/
def declarationWords : List Text :=
  ["function".toList, "class".toList, "async".toList, "abstract".toList,
    "interface".toList, "enum".toList]

/-- One name of a list in braces. -/
structure Specifier where
  imported : Text
  localName : Text
  typeOnly : Bool
  deriving DecidableEq, Repr

/-- One entry of a list in braces; none when it does not name a binding. -/
def Specifier.ofText? (entry : Text) : Option Specifier :=
  let typeOnly := startsWith entry "type ".toList
  let entry := if typeOnly then strip (entry.drop 5) else entry
  let imported := strip (before " as ".toList entry)
  let renamed := strip (after " as ".toList entry)
  if isIdentifier imported || imported = "default".toList then
    some ⟨imported, if renamed = [] then imported else renamed, typeOnly⟩
  else none

/-- The entries of a list in braces, without the braces. -/
def specifiers (block : Text) : List Specifier :=
  (names block).filterMap Specifier.ofText?

/-- Where a declaration stands and what it names. -/
structure Site where
  source : Text
  target : Text
  line : Nat

/-- The import of a symbol at a site, under an alias when it is another name. -/
def Site.bring (site : Site) (symbol : Text) (kind : ImportKind)
    (renamed : Option Text := none) : Finding :=
  .imports ⟨symbol, site.target, kind, site.source, site.line,
    renamed.filter (· ≠ symbol)⟩

/-- Whether a character can be left over when nothing is named between `import` and
`from`. -/
def isClauseFiller (c : Char) : Bool := c = '{' || c = '}' || c = ' ' || c = ','

/-- The bindings that stand before the braces of an import. -/
def headBindings (site : Site) (typeOnly : Bool) (head : Text) : List Finding :=
  if startsWith head "*".toList then
    let renamed := strip (after " as ".toList head)
    if isIdentifier renamed then [site.bring renamed .whole] else []
  else if head = [] then []
  else
    let name := strip (before ",".toList head)
    let rest := strip (after ",".toList head)
    let renamed := strip (after " as ".toList rest)
    let bare :=
      if isIdentifier name then
        [site.bring name (if typeOnly then .typeOnly else .default)]
      else []
    let whole :=
      if startsWith rest "*".toList && isIdentifier renamed then
        [site.bring renamed .whole]
      else []
    bare ++ whole

/-- The bindings of an import clause. -/
def clauseBindings (site : Site) (typeOnly : Bool) (clause : Text) : List Finding :=
  let head := strip (dropWhileEnd (· = ',') (strip (before ['{'] clause)))
  let braces := match cutLast ['}'] (after ['{'] clause) with
    | some parts => parts.1
    | none => []
  headBindings site typeOnly head ++ (specifiers braces).map fun s =>
    site.bring s.imported (if typeOnly || s.typeOnly then .typeOnly else .named)
      (some s.localName)

/-- What an import with names finds. Braces that do not balance make it unreadable. -/
def importFindings (site : Site) (typeOnly : Bool) (clause : Text) : List Finding :=
  if clause.count '{' ≠ clause.count '}' then []
  else
    let bindings := clauseBindings site typeOnly clause
    if bindings ≠ [] || clause.all isClauseFiller then
      bindings ++ [.dependsOn site.target] else []

/-- What a call of `require` finds. -/
def requireFindings (site : Site) (binding : Option Text) : List Finding :=
  (match binding with
    | none => []
    | some binding =>
      if startsWith binding ['{'] then
        let block := trimWhile (fun c => c = '{' || c = '}') binding
        let block := block.flatMap fun c => if c = ':' then " as ".toList else [c]
        (specifiers block).map fun s => site.bring s.imported .named (some s.localName)
      else [site.bring binding .default]) ++ [.dependsOn site.target]

/-- What a re-export finds. -/
def reexportFindings (site : Site) (typeOnly : Bool) (spec : Text)
    (renamed : Option Text) : List Finding :=
  (if startsWith spec ['{'] then
    (specifiers (trimWhile (fun c => c = '{' || c = '}') spec)).flatMap fun s =>
      [site.bring s.imported (if typeOnly || s.typeOnly then .typeOnly else .named),
        .exports s.imported]
  else
    match renamed with
    | some renamed => [site.bring renamed .whole, .exports renamed]
    | none => []) ++ [.dependsOn site.target]

/-- The findings of a file, in the order of the passes. -/
def findings (w : Workspace) (root file content : Text) : List Finding :=
  let site (m : Match) : Site :=
    ⟨m.part .source, Resolve.javascript w root file (m.part .source),
      lineAt content m.start⟩
  let typeOnly (m : Match) : Bool := (m.part? .typeOnly).isSome
  (importFrom.findAll content).flatMap (fun m =>
    importFindings (site m) (typeOnly m) (strip (m.part .clause))) ++
  (importBare.findAll content).map (fun m => .dependsOn (site m).target) ++
  (requireCall.findAll content).flatMap (fun m =>
    requireFindings (site m) (m.part? .clause)) ++
  (reexport.findAll content).flatMap (fun m =>
    reexportFindings (site m) (typeOnly m) (m.part .clause) (m.part? .renamed)) ++
  (exportDeclaration.findAll content).map (fun m => .exports (m.part .name)) ++
  (exportList.findAll content).flatMap (fun m =>
    (specifiers (m.part .clause)).map fun s => .exports s.imported) ++
  (exportDefault.findAll content).flatMap fun m =>
    if m.part .name ∈ declarationWords then [] else [.exports (m.part .name)]

/-- The functions that a file defines, in order. -/
def definitions (content : Text) : List Definition :=
  (definitionsOf functionDefinition content ++
    definitionsOf arrowDefinition content).mergeSort
    Definition.le

/-- The calls between the definitions and exports of a file. -/
def calls (content : Text) (facts : FileFacts) : List Call :=
  let definitions := definitions content
  callsBetween content definitions (facts.exports ++ definitions.map (·.name))
    (facts.imports.map (·.localName))

end ImpactGraph.Rules.JavaScript
