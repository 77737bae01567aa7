import ImpactGraph.Value

/-!
# Settings

What a user can set: which files are read and which are left out, the indexer to ask, and
how diagrams are drawn. Every setting has a default.
-/

namespace ImpactGraph

/-- Which way a diagram runs. -/
inductive Direction where
  | topDown
  | topBottom
  | bottomTop
  | leftRight
  | rightLeft
  deriving DecidableEq, Repr

namespace Direction

/-- The two letters of a direction. -/
def code : Direction → Text
  | topDown => "TD".toList
  | topBottom => "TB".toList
  | bottomTop => "BT".toList
  | leftRight => "LR".toList
  | rightLeft => "RL".toList

/-- All directions. -/
def all : List Direction := [topDown, topBottom, bottomTop, leftRight, rightLeft]

/-- The direction of two letters. -/
def ofCode? (text : Text) : Option Direction := all.find? (·.code = text)

end Direction

/-- How files are chosen and read. -/
structure AnalyzerSettings where
  includePatterns : List Text :=
    [".ts".toList, ".tsx".toList, ".js".toList, ".jsx".toList, ".py".toList, ".go".toList,
      ".rs".toList, ".java".toList]
  excludePatterns : List Text :=
    ["node_modules".toList, ".git".toList, "dist".toList, "build".toList,
      "__tests__".toList, "*.test.*".toList]
  maxDepth : Int := 5
  recordCalls : Bool := true

/-- The indexer to ask. -/
structure IndexerSettings where
  enabled : Bool := false
  baseUrl : Text := "http://localhost:8080".toList
  timeout : Binary64 := .finite false 30 0
  concurrency : Int := 8

/-- How diagrams are drawn. -/
structure DiagramSettings where
  maxNodes : Int := 20
  direction : Direction := .topDown

/-- All settings. -/
structure Settings where
  version : Text := "1.0".toList
  analyzer : AnalyzerSettings := {}
  indexer : IndexerSettings := {}
  diagram : DiagramSettings := {}

/-- The names of the settings that are not in a section, and of the sections. -/
def Settings.names : List Text :=
  ["version".toList, "analyzer".toList, "indexer".toList, "visualizer".toList]

/-! ## Single settings -/

/-- The settings that are no sections. -/
inductive Setting where
  | version
  | includePatterns
  | excludePatterns
  | maxDepth
  | recordCalls
  | enabled
  | baseUrl
  | timeout
  | concurrency
  | maxNodes
  | direction
  deriving DecidableEq

namespace Setting

/-- What a setting holds. -/
abbrev Kind : Setting → Type
  | version | baseUrl => Text
  | includePatterns | excludePatterns => List Text
  | maxDepth | concurrency | maxNodes => Int
  | recordCalls | enabled => Bool
  | timeout => Binary64
  | direction => Direction

/-- The section that a setting is in. -/
def section? : Setting → Option Text
  | version => none
  | includePatterns | excludePatterns | maxDepth | recordCalls => some "analyzer".toList
  | enabled | baseUrl | timeout | concurrency => some "indexer".toList
  | maxNodes | direction => some "visualizer".toList

/-- The name of a setting in its section. -/
def name : Setting → Text
  | version => "version".toList
  | includePatterns => "include_patterns".toList
  | excludePatterns => "exclude_patterns".toList
  | maxDepth => "max_depth".toList
  | recordCalls => "analyze_internal".toList
  | enabled => "enabled".toList
  | baseUrl => "base_url".toList
  | timeout => "timeout_seconds".toList
  | concurrency => "concurrency".toList
  | maxNodes => "max_nodes".toList
  | direction => "direction".toList

/-- What a setting is in given settings. -/
def get : (x : Setting) → Settings → x.Kind
  | version, s => s.version
  | includePatterns, s => s.analyzer.includePatterns
  | excludePatterns, s => s.analyzer.excludePatterns
  | maxDepth, s => s.analyzer.maxDepth
  | recordCalls, s => s.analyzer.recordCalls
  | enabled, s => s.indexer.enabled
  | baseUrl, s => s.indexer.baseUrl
  | timeout, s => s.indexer.timeout
  | concurrency, s => s.indexer.concurrency
  | maxNodes, s => s.diagram.maxNodes
  | direction, s => s.diagram.direction

/-- The value of a setting in data that have its section under its own name. -/
def valueIn (fields : List (Text × Value)) (x : Setting) : Option Value :=
  match x.section? with
  | none => fields.lookup x.name
  | some part => (fields.lookup part).bind (·.get? x.name)

/-- The name of the variable of a setting, in small letters. -/
def variableName (x : Setting) : Text :=
  match x.section? with
  | none => "depscope_".toList ++ x.name
  | some part => "depscope_".toList ++ part ++ "__".toList ++ x.name

end Setting

end ImpactGraph
