import ImpactGraph.Facts.Written
import ImpactGraph.Graph.Basic

/-!
# Graphs as data

The table that a graph is written as: its root and counts, its nodes by file, and the
dependents of every target.
-/

namespace ImpactGraph.Graph

/-- The fields of a graph. -/
def fields (g : Graph) : List (Text × Value) :=
  [("root".toList, .text g.root), ("file_count".toList, .nat g.fileCount),
    ("dependency_count".toList, .nat g.edgeCount),
    ("nodes".toList, .table (g.nodes.map fun node => (node.file, node.toValue))),
    ("dependents".toList,
      .table (g.index.map fun entry => (entry.1, .texts (Text.sort entry.2))))]

end ImpactGraph.Graph
