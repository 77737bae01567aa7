import ImpactGraph.Extraction
import ImpactGraph.Indexer.Service
import ImpactGraph.Outcome

/-!
# Delegation

The indexer is asked first, file by file, and the rules of the language step in when it
cannot answer. A file whose questions fail has exactly the facts that the rules give. The
indexer reports no calls, so these always come from the rules.
-/

namespace ImpactGraph

open Indexer

/-- An extractor that asks an indexer first. -/
structure Delegation (σ : Type) where
  service : Service σ
  rules : Extractor

namespace Delegation

variable {σ : Type}

/-- The name of a file's language. -/
def languageOf (file : Text) : Option Text := (Language.ofPath? file).map Language.name

/-- The facts that symbols and dependencies give, without calls. -/
def factsOf (w : Workspace) (root file : Text) (symbols : List Symbol)
    (deps : List Dependency) : FileFacts :=
  let start : FileFacts := { file := file, language := Language.ofPath? file }
  let exported := (symbols.filter (·.isExported)).map fun s => Finding.exports s.name
  let needed := deps.flatMap fun d =>
    let target := w.canonical root d.target
    [Finding.imports { symbol := d.target, target := target }, .dependsOn target]
  (exported ++ needed).foldl FileFacts.record start

/-- What the behaviour of an indexer tells about a file; the error says why it was not the
source. -/
def told (w : Workspace) (root file : Text) : Behaviour → Except Text FileFacts
  | .unavailable => .error "indexer unavailable".toList
  | .probeFails message | .symbolsFail message | .dependenciesFail message =>
    .error ("indexer failed: ".toList ++ message)
  | .answers symbols deps => .ok (factsOf w root file symbols deps)

/-- Asks the indexer about a file, under its path relative to the root. -/
def ask (d : Delegation σ) (file : Text) : StateM σ Behaviour :=
  d.service.ask d.rules.root (Path.relativeTo d.rules.workspace.cwd d.rules.root file)

/-- The outcome of a file, from what the indexer said and what the rules find. -/
def conclude (file : Text) (asked : Except Text FileFacts)
    (found : FileFacts) : Outcome :=
  match asked with
  | .ok facts =>
    { path := file
      language := facts.language.map Language.name
      facts := some { facts with calls := found.calls }
      backend := .indexer }
  | .error reason =>
    { path := file
      language := languageOf file
      facts := some found
      fallbackReason := some reason }

/-- The outcome of a file's text once the indexer was asked. Where the rules have no
answer there is none, whatever the indexer did. -/
def outcome (rules : Extractor) (file content : Text) (behaviour : Behaviour) :
    Except ExtractionError Outcome :=
  (rules.extract file content).map
    (conclude file (told rules.workspace rules.root file behaviour))

/-- The outcome of a file. -/
def extract (d : Delegation σ) (file content : Text) :
    StateM σ (Except ExtractionError Outcome) :=
  outcome d.rules file content <$> d.ask file

end Delegation

end ImpactGraph
