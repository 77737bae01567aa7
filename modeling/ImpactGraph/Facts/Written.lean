import ImpactGraph.Facts.Basic
import ImpactGraph.Value

/-!
# Facts as data

The tables that imports, calls and the facts of a file are written as. An import names its
alias only when it has one.
-/

namespace ImpactGraph

/-- An import as a table. -/
def Import.toValue (i : Import) : Value :=
  .table ([("symbol".toList, .text i.symbol), ("target".toList, .text i.target),
    ("kind".toList, .text i.kind.name), ("source".toList, .text i.source),
    ("line".toList, .int i.line)] ++
    match i.renamed? with
    | some renamed => [("alias".toList, .text renamed)]
    | none => [])

/-- A call as a table. -/
def Call.toValue (c : Call) : Value :=
  .table [("caller".toList, .text c.caller), ("callee".toList, .text c.callee),
    ("line".toList, .nat c.line)]

/-- The facts of a file as a table. -/
def FileFacts.toValue (f : FileFacts) : Value :=
  .table [("file".toList, .text f.file),
    ("language".toList, .ofText? (f.language.map Language.name)),
    ("exports".toList, .texts f.exports),
    ("imports".toList, .list (f.imports.map Import.toValue)),
    ("file_deps".toList, .texts f.edges),
    ("internal_deps".toList, .list (f.calls.map Call.toValue))]

end ImpactGraph
