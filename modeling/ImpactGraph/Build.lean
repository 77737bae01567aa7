import ImpactGraph.Delegation
import ImpactGraph.Exclusion
import ImpactGraph.Graph.Basic
import ImpactGraph.Report

/-!
# Building a graph

A build takes a list of files in any spelling. Each id counts once; excluded ones are left
out before anything is read. Every other file is examined on its own, and the graph is put
together when all are done, in the order of the list. So the graph does not depend on
which file was examined first. A file that exists and cannot be read makes the build fail,
after all files were examined.
-/

namespace ImpactGraph

/-- How the examination of one file ended. -/
inductive Examined where
  | missing
  | unreadable (cause : FileError)
  | failed (message : Text)
  | done (outcome : Outcome)

/-- The outcome of an examination that came to its end. -/
def Examined.outcome? : Examined → Option Outcome
  | .done outcome => some outcome
  | _ => none

/-- The file that an examination could not read, unless it did or the file is missing. -/
def Examined.unreadable? (file : Text) : Examined → Option Unreadable
  | .unreadable cause => some ⟨file, cause⟩
  | _ => none

/-- What a build leaves behind, whether it fails or not. -/
structure BuildResult where
  report : Report
  outcomes : List Outcome
  /-- The number of files that were examined. -/
  examined : Nat
  graph : Except Unreadable Graph

/-- What a build needs to know. -/
structure Builder where
  workspace : Workspace
  root : Text
  settings : AnalyzerSettings

namespace Builder

/-- A builder for the project below a root, given in any spelling. -/
def forRoot (w : Workspace) (root : Text) (settings : AnalyzerSettings) : Builder :=
  ⟨w, w.canonical root ['.'], settings⟩

/-- The rules that a builder reads files with. -/
def extractor (b : Builder) : Extractor :=
  .forRoot b.workspace b.root b.settings.recordCalls

/-- The ids of a list of files, each once. -/
def ids (b : Builder) (files : List Text) : List Text :=
  Text.distinct (files.map (b.workspace.canonical b.root))

/-- Whether an id is left out before it is read. -/
def isExcluded (b : Builder) (file : Text) : Bool :=
  Exclusion.excludes b.settings.excludePatterns file

/-- The ids that are read. -/
def selected (b : Builder) (files : List Text) : List Text :=
  (b.ids files).filter fun file => !b.isExcluded file

/-- How the extraction of a file's text is told in a build. -/
def examinedOf : Except ExtractionError Outcome → Examined
  | .ok outcome => .done outcome
  | .error e => .failed e.message

/-- Reads a file and extracts its facts. -/
def examineWith {m : Type → Type} [Monad m] (b : Builder)
    (extract : Text → Text → m (Except ExtractionError Outcome))
    (file : Text) : m Examined :=
  match b.workspace.readText file with
  | .error .missing => pure .missing
  | .error cause => pure (.unreadable cause)
  | .ok content => do
    let outcome ← extract file content
    return examinedOf outcome

/-- The outcome of a file from the rules alone. -/
def extractByRules (b : Builder) (file content : Text) : Except ExtractionError Outcome :=
  (b.extractor.extract file content).map fun facts =>
    { path := file, language := Delegation.languageOf file, facts := some facts }

/-- Examines a file by the rules alone. -/
def examine (b : Builder) (file : Text) : Examined :=
  Id.run (b.examineWith (fun file content => pure (b.extractByRules file content)) file)

/-- The report of a build with one more examined file. -/
def note (r : Report) (file : Text) : Examined → Report
  | .missing => r.recordSkipped file Report.notFound
  | .unreadable _ => r
  | .failed message =>
    r.recordFailure (.extraction message file
      [("language".toList, .ofText? (Delegation.languageOf file))])
  | .done _ => r.recordProcessed file

/-- The graph, the report and the outcomes of examined files, in order, besides those left
out. -/
def assemble (root : Text) (excluded : List Text) (examined : List (Text × Examined)) :
    BuildResult :=
  let report := excluded.foldl (fun r file => r.recordSkipped file Report.excluded) {}
  let outcomes := examined.filterMap (·.2.outcome?)
  let unreadable := examined.findSome? fun e => e.2.unreadable? e.1
  let graph := (outcomes.filterMap (·.facts)).foldl Graph.insert { root := root }
  { report := examined.foldl (fun r e => note r e.1 e.2) report
    outcomes := if unreadable.isSome then [] else outcomes
    examined := examined.length
    graph := match unreadable with
      | some u => .error u
      | none => .ok graph }

/-- Builds the graph of a list of files by the rules alone. -/
def build (b : Builder) (files : List Text) : BuildResult :=
  assemble b.root ((b.ids files).filter b.isExcluded)
    ((b.selected files).map fun file => (file, b.examine file))

/-- Asks the indexer about a file, if there is one. -/
def askIfAny {σ : Type} (b : Builder) (indexer : Option (Indexer.Service σ))
    (file : Text) : StateM σ (Option Indexer.Behaviour) :=
  match indexer with
  | none => pure none
  | some service => some <$> Delegation.ask ⟨service, b.extractor⟩ file

/-- The outcome of a file's text, given what the indexer did, if one was asked. -/
def outcomeGiven (b : Builder) (behaviour : Option Indexer.Behaviour)
    (file content : Text) : Except ExtractionError Outcome :=
  match behaviour with
  | none => b.extractByRules file content
  | some behaviour => Delegation.outcome b.extractor file content behaviour

/-- The outcome of a file's text; an indexer, if there is one, is asked about the file
first. -/
def extractFrom {σ : Type} (b : Builder) (indexer : Option (Indexer.Service σ))
    (file content : Text) : StateM σ (Except ExtractionError Outcome) :=
  (b.outcomeGiven · file content) <$> b.askIfAny indexer file

/-- Examines a file of a build. -/
def examineFrom {σ : Type} (b : Builder) (indexer : Option (Indexer.Service σ))
    (file : Text) :
    StateM σ (Text × Examined) := do
  let e ← b.examineWith (b.extractFrom indexer) file
  return (file, e)

/-- Builds the graph of a list of files, one after another. -/
def buildFrom {σ : Type} (b : Builder) (indexer : Option (Indexer.Service σ))
    (files : List Text) :
    StateM σ BuildResult := do
  let examined ← (b.selected files).mapM (b.examineFrom indexer)
  return assemble b.root ((b.ids files).filter b.isExcluded) examined

/-- Builds the graph of a list of files, asking over a connection about each file
first. -/
def buildWith {σ : Type} (b : Builder) (client : Indexer.Client σ) (files : List Text) :
    StateM σ BuildResult :=
  b.buildFrom (some client) files

end Builder

end ImpactGraph
