import ImpactGraph.Build

/-!
# Building again

A builder can be kept and asked for one graph after another. Beside the graph it shows the
report and the outcomes of its last build. A build fills them in as it goes along, so a
report is there when the build fails, too; what the build before left is cleared first.
The facts of a text are found by the rules, or by any finder that stands in for them.
-/

namespace ImpactGraph

/-- What finds the facts of a file in its text, or says why it cannot. -/
abbrev Finder := Text → Text → Except Text FileFacts

/-- What a builder shows of its last build. -/
structure LastBuild where
  report : Report := {}
  outcomes : List Outcome := []

namespace Builder

/-- The rules of a builder as a finder. -/
def rules (b : Builder) : Finder := fun file content =>
  (b.extractor.extract file content).mapError ExtractionError.message

/-- Examines a file with a finder. A text that the finder has no facts for fails alone. -/
def examineBy (b : Builder) (finder : Finder) (file : Text) : Examined :=
  match b.workspace.readText file with
  | .error .missing => .missing
  | .error cause => .unreadable cause
  | .ok content =>
    match finder file content with
    | .ok facts =>
      .done { path := file, language := Delegation.languageOf file, facts := some facts }
    | .error message => .failed message

/-- Picks the ids that are read; the others are recorded. -/
def select (b : Builder) : List Text → StateM LastBuild (List Text)
  | [] => pure []
  | file :: files => do
    if b.isExcluded file then
      modify fun last =>
        { last with report := last.report.recordSkipped file Report.excluded }
      b.select files
    else
      let rest ← b.select files
      return file :: rest

/-- Examines a file and records how that ended. -/
def examineIn (b : Builder) (finder : Finder) (file : Text) :
    StateM LastBuild (Text × Examined) := do
  let e := b.examineBy finder file
  modify fun last => { last with report := note last.report file e }
  return (file, e)

/-- Keeps an outcome that has facts, and files these in a graph under the path of the
outcome. -/
def commit (g : Graph) (e : Text × Examined) : StateM LastBuild Graph :=
  match e.2.outcome? with
  | none => pure g
  | some outcome =>
    match outcome.facts with
    | none => pure g
    | some facts => do
      modify fun last => { last with outcomes := last.outcomes ++ [outcome] }
      return g.insert { facts with file := outcome.path }

/-- Clears what is left of the last build, and examines a list of files. -/
def examineAll (b : Builder) (finder : Finder) (files : List Text) :
    StateM LastBuild (List (Text × Examined)) := do
  set ({} : LastBuild)
  let selected ← b.select (b.ids files)
  selected.mapM (b.examineIn finder)

/-- Keeps what was found and puts the graph together, unless a file could not be read. -/
def settle (b : Builder) (slots : List (Text × Examined)) :
    StateM LastBuild (Except Unreadable Graph) :=
  match slots.findSome? fun e => e.2.unreadable? e.1 with
  | some u => return .error u
  | none => .ok <$> slots.foldlM commit { root := b.root }

/-- Builds the graph of a list of files, whatever was built before. -/
def rebuild (b : Builder) (finder : Finder) (files : List Text) :
    StateM LastBuild (Except Unreadable Graph) := do
  let slots ← b.examineAll finder files
  b.settle slots

/-- The graph of a list of files, or the file that could not be read, and what a builder
shows that built nothing before. -/
def first (b : Builder) (finder : Finder) (files : List Text) :
    Except Unreadable Graph × LastBuild :=
  (b.rebuild finder files).run {}

/-- Builds one graph after another with one builder, and looks at what it shows after
each. -/
def history (b : Builder) (finder : Finder) (inputs : List (List Text)) :
    StateM LastBuild (List (Except Unreadable Graph × LastBuild)) :=
  inputs.mapM fun files => do
    let result ← b.rebuild finder files
    let last ← get
    return (result, last)

end Builder

end ImpactGraph
