import ImpactGraph.CommandLine.Grammar
import ImpactGraph.Settings.Basic

/-!
# The program

The commands that are offered, with their options and what help says about them.
-/

namespace ImpactGraph.CommandLine

open Text

/-- The project that a command looks at. -/
def pathOption : OptionSpec :=
  { name := "--path".toList, letter := some 'p', kind := .directory,
    help := "Project root".toList }

/-- The forms of an answer. -/
def formats : List Text := ["table".toList, "json".toList]

/-- The form of an answer. -/
def formatOption : OptionSpec :=
  { name := "--format".toList, letter := some 'f', kind := .choice formats
    help := "Output format".toList }

/-- The command that builds a graph. -/
def buildCommand : CommandSpec :=
  { name := "build".toList
    summary := "Build the dependency graph and summarize it".toList
    about := [
      .flowing "Build the dependency graph and summarize it.".toList,
      .verbatim [
        "Examples:".toList,
        "    depscope build                 # Summary table for the current directory".toList,
        "    depscope build -p src -f json  # Full graph as JSON".toList]]
    options := [pathOption, formatOption] }

/-- The command that shows what is around a file. -/
def depsCommand : CommandSpec :=
  { name := "deps".toList
    summary := "Show a file's dependencies and dependents".toList
    about := [
      .flowing "Show what FILE depends on and what depends on it.".toList,
      .verbatim [
        "Examples:".toList,
        "    depscope deps src/app.ts".toList,
        "    depscope deps src/app.ts -f json".toList]]
    operand := some { name := "FILE".toList }
    options := [pathOption, formatOption] }

/-- The command that draws a graph. -/
def vizCommand : CommandSpec :=
  { name := "viz".toList
    summary := "Render the graph as a Mermaid diagram".toList
    about := [
      .flowing "Render the dependency graph as a Mermaid diagram.".toList,
      .flowing
        "With FILES, only those files and the edges between them are drawn.".toList,
      .verbatim [
        "Examples:".toList,
        "    depscope viz                         # First files of the project".toList,
        "    depscope viz src/a.ts src/b.ts       # Just these two".toList,
        "    depscope viz -d LR -o deps.md        # Left-to-right, into a file".toList]]
    operand := some { name := "FILES".toList, many := true, required := false }
    options := [
      pathOption,
      { name := "--direction".toList, letter := some 'd',
        kind := .choice (Direction.all.map (·.code))
        help := "Layout direction (default from config)".toList },
      { name := "--max-nodes".toList, letter := some 'n', kind := .integer
        help := "Nodes shown without FILES".toList },
      { name := "--no-fence".toList, help := "Omit the markdown code fence".toList },
      { name := "--output".toList, letter := some 'o', kind := .newFile
        help := "Write the diagram to a file".toList }] }

/-- The command that follows a change. -/
def impactCommand : CommandSpec :=
  { name := "impact".toList
    summary := "What is affected if these files change?".toList
    about := [
      .flowing "What is affected if FILES change?".toList,
      .flowing
        ("Lists every file that depends on the changed files (transitively), the ".toList ++
          "direct dependencies worth reviewing alongside them, and a severity.".toList),
      .verbatim [
        "Examples:".toList,
        "    depscope impact src/auth.ts".toList,
        "    depscope impact $(git diff --name-only) -f json".toList]]
    operand := some { name := "FILES".toList, many := true }
    options := [pathOption, formatOption] }

/-- The command that writes a settings file. -/
def initCommand : CommandSpec :=
  { name := "init".toList
    summary := "Create a .depscope.toml configuration file".toList
    about := [
      .flowing "Initialize a new .depscope.toml configuration file.".toList,
      .flowing
        ("Creates a configuration file with sensible defaults in the current ".toList ++
        "directory.".toList)]
    options := [
      { name := "--force".toList, letter := some 'f',
        help := "Overwrite existing .depscope.toml".toList }] }

/-- The commands. -/
inductive Command where
  | build
  | deps
  | viz
  | impact
  | init
  deriving DecidableEq, Repr

namespace Command

/-- All commands. -/
def all : List Command := [build, deps, viz, impact, init]

/-- What a command takes. -/
def spec : Command → CommandSpec
  | build => buildCommand
  | deps => depsCommand
  | viz => vizCommand
  | impact => impactCommand
  | init => initCommand

/-- The command of a name. -/
def ofName? (name : Text) : Option Command := all.find? (·.spec.name = name)

/-- The names of all commands. -/
def names : List Text := all.map (·.spec.name)

end Command

/-- The program. -/
def program : ProgramSpec :=
  { name := "depscope".toList
    version := "0.1.0".toList
    about := [
      .flowing "depscope - dependency graphs and change impact for codebases.".toList,
      .flowing "Every command scans --path (default: current directory) afresh.".toList]
    options := [
      { name := "--verbose".toList, letter := some 'v',
        help := "Log every file decision".toList },
      { name := "--quiet".toList, letter := some 'q',
        help := "Only print results and errors".toList },
      { name := "--debug".toList, help := "Show full tracebacks on errors".toList },
      { name := "--config".toList, kind := .file
        help := "Use this .depscope.toml instead of searching for one".toList }]
    sections := [
      ("Graph".toList, [buildCommand, depsCommand, vizCommand]),
      ("Review".toList, [impactCommand]),
      ("Setup".toList, [initCommand])] }

end ImpactGraph.CommandLine
