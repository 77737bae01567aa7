import ImpactGraph.Lenient.Reading
import ImpactGraph.Settings.Basic

/-!
# Checking settings

Settings from data: every field that is there is checked leniently, every other has its
default, and unknown fields are passed over. Faults come in the order of the fields.
-/

namespace ImpactGraph

open Lenient

/-- A section: a table whose fields are checked. -/
def section? {α : Type} (check : List (Text × Value) → Checked α) : Value → Checked α
  | .table fields => check fields
  | _ => .fault .table

/-- One of the directions, exactly as it is written. -/
def directionOf : Value → Checked Direction
  | .text t =>
    match Direction.ofCode? t with
    | some d => .ok d
    | none => .fault .choice
  | _ => .fault .choice

/-- How files are chosen and read, from the fields of a table. -/
def AnalyzerSettings.check (fields : List (Text × Value)) : Checked AnalyzerSettings :=
  let base : AnalyzerSettings := {}
  AnalyzerSettings.mk
    <$> field fields "include_patterns".toList base.includePatterns texts
    <*> field fields "exclude_patterns".toList base.excludePatterns texts
    <*> field fields "max_depth".toList base.maxDepth integer
    <*> field fields "analyze_internal".toList base.recordCalls boolean

/-- The indexer to ask, from the fields of a table. -/
def IndexerSettings.check (fields : List (Text × Value)) : Checked IndexerSettings :=
  let base : IndexerSettings := {}
  IndexerSettings.mk
    <$> field fields "enabled".toList base.enabled boolean
    <*> field fields "base_url".toList base.baseUrl text
    <*> field fields "timeout_seconds".toList base.timeout number
    <*> field fields "concurrency".toList base.concurrency (integerFrom 1)

/-- How diagrams are drawn, from the fields of a table. -/
def DiagramSettings.check (fields : List (Text × Value)) : Checked DiagramSettings :=
  let base : DiagramSettings := {}
  DiagramSettings.mk
    <$> field fields "max_nodes".toList base.maxNodes (integerFrom 0)
    <*> field fields "direction".toList base.direction directionOf

/-- All settings, from the fields of a table. -/
def Settings.check (fields : List (Text × Value)) : Checked Settings :=
  let base : Settings := {}
  Settings.mk
    <$> field fields "version".toList base.version text
    <*> field fields "analyzer".toList base.analyzer (section? AnalyzerSettings.check)
    <*> field fields "indexer".toList base.indexer (section? IndexerSettings.check)
    <*> field fields "visualizer".toList base.diagram (section? DiagramSettings.check)

/-- The check of a single setting. -/
def Setting.check : (x : Setting) → Value → Checked x.Kind
  | version | baseUrl => text
  | includePatterns | excludePatterns => texts
  | maxDepth => integer
  | recordCalls | enabled => boolean
  | timeout => number
  | concurrency => integerFrom 1
  | maxNodes => integerFrom 0
  | direction => directionOf

end ImpactGraph
