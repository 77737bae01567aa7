import ImpactGraph.Facts.Basic

/-!
# Dependency graphs

A graph holds the facts of the files that were analysed, in the order they were added, and
leads from each file to the files it depends on. Targets need not be in the graph. The
reverse index is derived from the edges, one after another, and is never edited on its
own, so the two directions cannot disagree.
-/

namespace ImpactGraph

/-- The files that depend on each target, the targets in the order in which they were
first met. -/
abbrev ReverseIndex := List (Text × List Text)

namespace ReverseIndex

/-- A file put among the files of a target, which gets an entry when it has none. -/
def add : ReverseIndex → Text → Text → ReverseIndex
  | [], target, file => [(target, [file])]
  | (t, files) :: rest, target, file =>
    if t = target then (t, Text.addNew files file) :: rest else
      (t, files) :: add rest target file

/-- The files of a target; none when it has no entry. -/
def filesOf (index : ReverseIndex) (target : Text) : List Text :=
  (index.lookup target).getD []

/-- The files of a target, in code-point order. -/
def sorted (index : ReverseIndex) (target : Text) : List Text :=
  Text.sort (index.filesOf target)

/-- The number of files of all targets. -/
def size : ReverseIndex → Nat
  | [] => 0
  | (_, files) :: rest => files.length + size rest

end ReverseIndex

/-- The analysed files of a project below a root. -/
structure Graph where
  /-- The id of the root. -/
  root : Text
  nodes : List FileFacts := []

namespace Graph

/-- The id of a file named by a path, read from the root. -/
def canonical (g : Graph) (path : Text) : Text := Path.normal (Path.join g.root path)

/-- The facts of an id. -/
def node? (g : Graph) (file : Text) : Option FileFacts := g.nodes.find? (·.file = file)

/-- Whether a file was analysed. -/
def has (g : Graph) (path : Text) : Bool := (g.node? (g.canonical path)).isSome

/-- The facts of a file in any spelling. -/
def dependencies (g : Graph) (path : Text) : Option FileFacts :=
  g.node? (g.canonical path)

/-- The graph with the facts of a file, in the place of older facts of the file if there
are any. -/
def insert (g : Graph) (facts : FileFacts) : Graph :=
  { g with nodes :=
      if g.nodes.any (·.file = facts.file) then
        g.nodes.map fun node => if node.file = facts.file then facts else node
      else g.nodes ++ [facts] }

/-- The edges, file by file. -/
def edges (g : Graph) : List (Text × Text) :=
  g.nodes.flatMap fun node => node.edges.map (node.file, ·)

/-- The reverse index, derived from the edges. -/
def index (g : Graph) : ReverseIndex :=
  g.edges.foldl (fun index e => index.add e.2 e.1) []

/-- The files that depend on an id, in code-point order. -/
def dependentsOf (g : Graph) (file : Text) : List Text := g.index.sorted file

/-- The files that depend on a file in any spelling. -/
def dependents (g : Graph) (path : Text) : List Text := g.dependentsOf (g.canonical path)

/-- The files that something depends on, in the order in which edges lead to them. -/
def targets (g : Graph) : List Text := g.index.map (·.1)

/-- The number of analysed files. -/
def fileCount (g : Graph) : Nat := g.nodes.length

/-- The number of dependencies of all files. -/
def edgeCount (g : Graph) : Nat := g.nodes.foldr (fun node n => node.edges.length + n) 0

end Graph

end ImpactGraph
