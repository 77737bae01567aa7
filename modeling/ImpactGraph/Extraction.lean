import ImpactGraph.Rules.Go
import ImpactGraph.Rules.Java
import ImpactGraph.Rules.JavaScript
import ImpactGraph.Rules.Python
import ImpactGraph.Rules.Rust

/-!
# Extraction

The facts of one file from its text alone. A file of an unknown language has no facts, and
its text is not looked at. Two kinds of texts have no answer: one of Go that asks for the
module file below the root, when that exists and cannot be read, and one of Rust with a
use tree that the interpreter's stack is too small for.
-/

namespace ImpactGraph

/-- Why a text has no facts. -/
inductive ExtractionError where
  /-- The module file of a project in Go cannot be read. -/
  | moduleFile (file : Unreadable)
  /-- A use tree of Rust cannot be expanded. -/
  | useTree (fault : Rules.UseTree.Fault)
  deriving DecidableEq, Repr

/-- What is said about a text that has no facts. -/
def ExtractionError.message : ExtractionError → Text
  | moduleFile file => file.message
  | useTree .tooDeep => "maximum recursion depth exceeded".toList
  | useTree .noBrace => "no closing brace".toList

/-- What the rules of a language find in a text. -/
def findings (w : Workspace) (root file content : Text) :
    Language → Except ExtractionError (List Finding)
  | .typescript | .javascript => .ok (Rules.JavaScript.findings w root file content)
  | .python => .ok (Rules.Python.findings w root file content)
  | .go => (Rules.Go.findings w root file content).mapError .moduleFile
  | .java => .ok (Rules.Java.findings w root content)
  | .rust => (Rules.Rust.findings w root file content).mapError .useTree

/-- The calls inside a text whose other facts are known. -/
def innerCalls (content : Text) (facts : FileFacts) : Language → List Call
  | .typescript | .javascript => Rules.JavaScript.calls content facts
  | .python => Rules.Python.calls content facts
  | .go | .java | .rust => []

/-- How files are read: the workspace, the root of the project, and whether calls inside a
file are recorded. -/
structure Extractor where
  workspace : Workspace
  root : Text
  recordCalls : Bool := true

namespace Extractor

/-- An extractor for the project below a root, given in any spelling. -/
def forRoot (w : Workspace) (root : Text) (recordCalls : Bool := true) : Extractor :=
  ⟨w, w.canonical root ['.'], recordCalls⟩

/-- The facts of a file. -/
def extract (e : Extractor) (file content : Text) : Except ExtractionError FileFacts :=
  match Language.ofPath? file with
  | none => .ok { file := file }
  | some language =>
    (findings e.workspace e.root file content language).map fun found =>
      let facts := FileFacts.ofFindings file language found
      if e.recordCalls then { facts with calls := innerCalls content facts language } else
        facts

end Extractor

end ImpactGraph
