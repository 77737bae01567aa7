import ImpactGraph.Build
import ImpactGraph.CommandLine.Arguments
import ImpactGraph.CommandLine.Session
import ImpactGraph.Diagram
import ImpactGraph.Graph.Written
import ImpactGraph.Impact
import ImpactGraph.Scan

/-!
# Commands

What each command does. All but the one that writes a settings file build the graph of the
project afresh; nothing is kept from one run to the next.
-/

namespace ImpactGraph.CommandLine

open Text Console

/-- What a run finds around it. -/
structure Surroundings (σ : Type) where
  /-- The columns of the terminal. -/
  terminal : Nat
  home : Text
  env : Environment
  /-- What makes settings of data. -/
  library : Settings.Library
  /-- How a request is sent to the indexer. -/
  send : Text → StateM σ Indexer.Reply

/-- What a command starts from: its surroundings, and the settings if they could be
loaded. -/
structure Start (σ : Type) extends Surroundings σ where
  loaded : Option Settings

variable {σ : Type}

/-- The settings of a run. When they could not be loaded, those of the environment
alone. -/
def Start.settings (start : Start σ) : Act σ Settings := do
  match start.loaded with
  | some settings => pure settings
  | none =>
    match start.library.construct (← get).workspace start.env [] with
    | .ok settings => pure settings
    | .error e => Act.stop (.crash (.settings e))

/-- A graph that was built, and what happened on the way. -/
structure Built where
  graph : Graph
  result : BuildResult

/-- Builds the graph of the project that the arguments name. -/
def Start.build (start : Start σ) (a : Arguments) : Act σ Built := do
  let settings ← start.settings
  let w := (← get).workspace
  let path := (a.readings.text? "--path").getD ['.']
  let files := scan w path settings.analyzer
  let builder := Builder.forRoot w path settings.analyzer
  let result ←
    if settings.indexer.enabled then
      match Indexer.Client.ofSettings settings.indexer start.send with
      | .ok client => Act.ask (builder.buildWith client files)
      | .error flaw => Act.stop (.crash (.address flaw))
    else pure (builder.build files)
  match result.graph with
  | .ok graph => return ⟨graph, result⟩
  | .error unreadable => Act.stop (.crash (.file unreadable))

/-- Whether the answer is to be data and no table. -/
def Arguments.wantsData (a : Arguments) : Bool :=
  a.readings.text? "--format" = some "json".toList

/-- The id of a file named on the command line. -/
def fileOf (file : Text) : Act σ Text := do
  let w := (← get).workspace
  return w.canonical w.cwd file

/-- A file of a graph as it is shown. -/
def shortName (g : Graph) (file : Text) : Act σ Text := do
  return Path.relativeTo (← get).workspace.cwd g.root file

/-- The rows that sum up a build. -/
def summaryRows (b : Built) : List (List Text) :=
  let count (name : Text) (n : Nat) : List Text := [name, ofNat n]
  let fallbacks := b.result.outcomes.countP (·.fellBack)
  [count "Files".toList b.graph.fileCount,
    count "Dependencies".toList b.graph.edgeCount] ++
  (b.result.report.skipCounts.map fun (reason, n) =>
    count ("Skipped (".toList ++ reason ++ [')']) n) ++
  [count "Errors".toList b.result.report.failures.length] ++
  if fallbacks = 0 then [] else [count "Indexer fallbacks".toList fallbacks]

/-- The file that a failure is about. -/
def fileOfFailure (f : Failure) : Text :=
  match f.details.lookup "file_path".toList with
  | some (.text file) => file
  | _ => []

/-- Builds the graph and sums it up. -/
def runBuild (start : Start σ) (a : Arguments) : Act σ Unit := do
  let b ← start.build a
  let report := b.result.report
  if a.wantsData then
    Act.data (b.graph.fields ++ [("result".toList, report.toValue)])
  else
    Act.table start.terminal
      { title := "Dependency Graph".toList
        columns := [⟨"Metric".toList, .left⟩, ⟨"Value".toList, .right⟩]
        rows := summaryRows b }
    for failure in report.failures do
      Act.warn start.terminal (fileOfFailure failure ++ ": ".toList ++ failure.message)
  Act.exitWith report.exitCode

/-- The rows for what is around a file. -/
def neighbourRows (g : Graph) (edges dependents : List Text) :
    Act σ (List (List Text)) := do
  let outward ← edges.mapM fun file => do
    return ["depends on".toList, ← shortName g file,
      if g.has file then "yes".toList else "no".toList]
  let inward ← dependents.mapM fun file => do
    return ["used by".toList, ← shortName g file, "yes".toList]
  return outward ++ inward

/-- Shows what is around a file. -/
def runDeps (start : Start σ) (a : Arguments) : Act σ Unit := do
  let b ← start.build a
  let file := a.operands.headD []
  let id ← fileOf file
  let facts := b.graph.dependencies id
  let dependents := b.graph.dependents id
  if facts.isNone && dependents = [] then
    Act.error start.terminal ("File not found in graph: ".toList ++ file)
    Act.exitWith .settings
  if a.wantsData then
    Act.data [("file".toList, .text id),
      ("node".toList, (facts.map FileFacts.toValue).getD .null),
      ("dependents".toList, .texts dependents)]
  else
    Act.table start.terminal
      { title := "Dependencies of ".toList ++ (← shortName b.graph id)
        columns :=
          [⟨"Direction".toList, .left⟩, ⟨"File".toList, .left⟩,
            ⟨"Analyzed".toList, .center⟩]
        rows := ← neighbourRows b.graph ((facts.map (·.edges)).getD []) dependents }
    let exports := (facts.map (·.exports)).getD []
    if exports ≠ [] then
      Act.say start.terminal ("Exports: ".toList ++ join ", ".toList exports)

/-- Draws the graph. -/
def runViz (start : Start σ) (a : Arguments) : Act σ Unit := do
  let settings ← start.settings
  let b ← start.build a
  let r := a.readings
  let style : DiagramStyle :=
    { maxNodes := (r.integer? "--max-nodes").getD settings.diagram.maxNodes
      direction := (r.text? "--direction").getD settings.diagram.direction.code
      fenced := !r.has "--no-fence" }
  let files ← a.operands.mapM fileOf
  let diagram :=
    Diagram.render style b.graph (if files = [] then none else some files) ++ ['\n']
  match r.text? "--output" with
  | none => Act.write diagram
  | some path =>
    Act.save path diagram
    Act.sayIn start.terminal "green".toList ("Wrote ".toList ++ path)

/-- Shows what a change of files can affect. -/
def runImpact (start : Start σ) (a : Arguments) : Act σ Unit := do
  let b ← start.build a
  let impact := b.graph.impact (← a.operands.mapM fileOf)
  let report := b.result.report
  if a.wantsData then
    Act.data (impact.fields ++
      [("errors".toList, .list (report.failures.map Failure.toValue))])
  else
    Act.say start.terminal ("Severity: ".toList ++ impact.severity.name ++
      "  Review scope: ".toList ++
      ofNat impact.chain.length ++ " files".toList)
    let roles :=
      [("changed".toList, impact.changed), ("affected".toList, impact.affected),
      ("dependency".toList, impact.dependencies)]
    let rows ← roles.mapM fun (role, files) => files.mapM fun file => do
      return [role, ← shortName b.graph file]
    Act.table start.terminal
      { title := "Impact".toList
        columns := [⟨"Role".toList, .left⟩, ⟨"File".toList, .left⟩]
        rows := rows.flatten }
  Act.exitWith report.exitCode

/-- Writes a settings file with the defaults. -/
def runInit (start : Start σ) (a : Arguments) : Act σ Unit := do
  let w := (← get).workspace
  let path := Path.settingsFile w.cwd w.cwd
  let say := Act.say start.terminal
  if Settings.exists? w path && !a.readings.has "--force" then
    Act.warn start.terminal ("Configuration file already exists: ".toList ++ path)
    say "Use --force to overwrite".toList
    Act.exitWith .settings
  match w.write path Settings.template with
  | .error .denied =>
    Act.error start.terminal ("Permission denied: ".toList ++ path)
    Act.exitWith .settings
  | _ => Act.save path Settings.template
  Act.sayIn start.terminal "green".toList ("Created ".toList ++ path)
  say "\nNext steps:".toList
  say "  1. Edit .depscope.toml to adjust include/exclude patterns".toList
  say "  2. Run 'depscope build' to analyze your codebase".toList
  say "  3. Run 'depscope impact <file>' before reviewing a change".toList

end ImpactGraph.CommandLine
