import ImpactGraph.Graph.Basic
import ImpactGraph.Settings.Basic

/-!
# Diagrams

A part of a graph as a Mermaid flowchart: a header, one node to a file with the last
component of its path as the label, and one arrow to an edge between two files of the
part. Quotes, brackets, braces and angle brackets of labels are replaced by characters
that have no meaning in the format.
-/

namespace ImpactGraph

open Text

/-- How a diagram is drawn. -/
structure DiagramStyle where
  /-- How many files are taken from the graph when none are named; a negative number
  leaves out so many at the end. -/
  maxNodes : Int := 20
  direction : Text := "TD".toList
  /-- Whether the diagram stands in a fence of a text document. -/
  fenced : Bool := true

namespace Diagram

/-- The first files of a list; a negative number leaves out so many at the end. -/
def firstOf (files : List Text) (n : Int) : List Text :=
  files.take (position files.length n)

/-- The files a diagram shows: the ones named, in any spelling and each once, or the first
ones of the graph. -/
def selection (style : DiagramStyle) (g : Graph) : Option (List Text) → List Text
  | some files => Text.distinct (files.map g.canonical)
  | none => firstOf (g.nodes.map (·.file)) style.maxNodes

/-- A character as labels show it. -/
def labelChar (c : Char) : Char :=
  if c = '"' then '\''
  else if c = '[' || c = '{' || c = '<' then '('
  else if c = ']' || c = '}' || c = '>' then ')'
  else c

/-- The label of a file. -/
def label (file : Text) : Text :=
  let name := Path.baseName file
  (if name = [] then file else name).map labelChar

/-- The name of the node at a position. -/
def nodeName (i : Nat) : Text := 'N' :: Text.ofNat i

/-- The position of a file among those shown. -/
def indexOf? (selected : List Text) (file : Text) : Option Nat :=
  selected.findIdx? (· = file)

/-- The line that declares a node. -/
def nodeLine (file : Text) (i : Nat) : Text :=
  "  ".toList ++ nodeName i ++ "[\"".toList ++ label file ++ "\"]".toList

/-- The lines of the arrows from a file to others that are shown. -/
def arrowLines (g : Graph) (selected : List Text) (file : Text) (i : Nat) : List Text :=
  (((g.node? file).map (·.edges)).getD []).filterMap fun target =>
    (indexOf? selected target).map fun j =>
      "  ".toList ++ nodeName i ++ " --> ".toList ++ nodeName j

/-- The lines of a diagram. -/
def lines (style : DiagramStyle) (g : Graph) (files : Option (List Text)) : List Text :=
  let selected := selection style g files
  (if style.fenced then ["```mermaid".toList] else []) ++
  ["graph ".toList ++ style.direction] ++
  selected.mapIdx (fun i file => nodeLine file i) ++
  (selected.mapIdx fun i file => arrowLines g selected file i).flatten ++
  (if style.fenced then ["```".toList] else [])

/-- A diagram as text. -/
def render (style : DiagramStyle) (g : Graph) (files : Option (List Text)) : Text :=
  join ['\n'] (lines style g files)

end Diagram

end ImpactGraph
