import ImpactGraph.Proofs.Answers
import ImpactGraph.Settings.Check

/-!
# Settings one by one

The checks of settings are written section by section. Here they are taken apart: checked
settings have for each single setting what its own check makes of its own field, and the
default where there is no such field. No check takes a null or a table, so whatever turns
one of them up has no settings at all.
-/

namespace ImpactGraph

open Lenient

/-! ## Checks side by side -/

namespace Lenient

variable {α β : Type}

theorem Checked.of_seq {f : Checked (α → β)} {a : Checked α} {b : β}
    (h : f <*> a = .ok b) : ∃ g x, f = .ok g ∧ a = .ok x ∧ g x = b := by
  change Checked.apply f a = _ at h
  unfold Checked.apply at h
  split at h
  · exact ⟨_, _, rfl, rfl, Except.ok.inj h⟩
  · exact absurd h nofun
  · exact absurd h nofun
  · exact absurd h nofun

theorem Checked.of_map {f : α → β} {a : Checked α} {b : β} (h : f <$> a = .ok b) :
    ∃ x, a = .ok x ∧ f x = b := by
  obtain ⟨g, x, hg, hx, hb⟩ := Checked.of_seq (f := .ok f) h
  exact ⟨x, hx, Except.ok.inj hg ▸ hb⟩

theorem Checked.of_under {step : Step} {a : Checked α} {x : α}
    (h : a.under step = .ok x) : a = .ok x := by
  cases a with
  | error faults => exact absurd h nofun
  | ok y => exact h

/-- What a check makes of a value, or the default when there is none. -/
def checkedOr (default : α) (check : Value → Checked α) : Option Value → Checked α
  | some v => check v
  | none => .ok default

/-- A field that is there was checked, any other has its default. -/
theorem of_field {fields : List (Text × Value)} {name : Text} {default a : α}
    {check : Value → Checked α} (h : field fields name default check = .ok a) :
    checkedOr default check (fields.lookup name) = .ok a := by
  unfold field at h
  split at h
  · rename_i v hv
    rw [hv]
    exact Checked.of_under h
  · rename_i hnone
    rw [hnone]
    exact h

end Lenient

/-! ## Single settings -/

namespace Setting

/-- A setting of a value: what its check makes of it, or its default when there is
none. -/
def ofValue? (x : Setting) (v : Option Value) : Checked x.Kind :=
  checkedOr (x.get {}) x.check v

end Setting

/-! ## Taking the checks apart -/

section Parts

variable {given : List (Text × Value)}

theorem AnalyzerSettings.of_check {a : AnalyzerSettings} (h : check given = .ok a) :
    let base : AnalyzerSettings := {}
    field given "include_patterns".toList base.includePatterns texts =
      .ok a.includePatterns ∧
      field given "exclude_patterns".toList base.excludePatterns texts =
        .ok a.excludePatterns ∧
      field given "max_depth".toList base.maxDepth integer = .ok a.maxDepth ∧
      field given "analyze_internal".toList base.recordCalls boolean =
        .ok a.recordCalls := by
  obtain ⟨_, calls, hthree, hcalls, rfl⟩ := Checked.of_seq h
  obtain ⟨_, depth, htwo, hdepth, rfl⟩ := Checked.of_seq hthree
  obtain ⟨_, left, hone, hleft, rfl⟩ := Checked.of_seq htwo
  obtain ⟨taken, htaken, rfl⟩ := Checked.of_map hone
  exact ⟨htaken, hleft, hdepth, hcalls⟩

theorem IndexerSettings.of_check {a : IndexerSettings} (h : check given = .ok a) :
    let base : IndexerSettings := {}
    field given "enabled".toList base.enabled boolean = .ok a.enabled ∧
      field given "base_url".toList base.baseUrl text = .ok a.baseUrl ∧
      field given "timeout_seconds".toList base.timeout number = .ok a.timeout ∧
      field given "concurrency".toList base.concurrency (integerFrom 1) =
        .ok a.concurrency := by
  obtain ⟨_, concurrency, hthree, hconcurrency, rfl⟩ := Checked.of_seq h
  obtain ⟨_, timeout, htwo, htimeout, rfl⟩ := Checked.of_seq hthree
  obtain ⟨_, url, hone, hurl, rfl⟩ := Checked.of_seq htwo
  obtain ⟨enabled, henabled, rfl⟩ := Checked.of_map hone
  exact ⟨henabled, hurl, htimeout, hconcurrency⟩

theorem DiagramSettings.of_check {a : DiagramSettings} (h : check given = .ok a) :
    let base : DiagramSettings := {}
    field given "max_nodes".toList base.maxNodes (integerFrom 0) = .ok a.maxNodes ∧
      field given "direction".toList base.direction directionOf = .ok a.direction := by
  obtain ⟨_, direction, hone, hdirection, rfl⟩ := Checked.of_seq h
  obtain ⟨nodes, hnodes, rfl⟩ := Checked.of_map hone
  exact ⟨hnodes, hdirection⟩

theorem Settings.of_check {s : Settings} (h : check given = .ok s) :
    let base : Settings := {}
    field given "version".toList base.version text = .ok s.version ∧
      field given "analyzer".toList base.analyzer (section? AnalyzerSettings.check) =
        .ok s.analyzer ∧
      field given "indexer".toList base.indexer (section? IndexerSettings.check) =
        .ok s.indexer ∧
      field given "visualizer".toList base.diagram (section? DiagramSettings.check) =
        .ok s.diagram := by
  obtain ⟨_, diagram, hthree, hdiagram, rfl⟩ := Checked.of_seq h
  obtain ⟨_, indexer, htwo, hindexer, rfl⟩ := Checked.of_seq hthree
  obtain ⟨_, analyzer, hone, hanalyzer, rfl⟩ := Checked.of_seq htwo
  obtain ⟨version, hversion, rfl⟩ := Checked.of_map hone
  exact ⟨hversion, hanalyzer, hindexer, hdiagram⟩

theorem table_of_section {α : Type} {check : List (Text × Value) → Checked α}
    {v : Value} {a : α} (h : section? check v = .ok a) : ∃ inner, v = .table inner ∧
      check inner = .ok a := by
  cases v with
  | table inner => exact ⟨inner, rfl, h⟩
  | _ => exact absurd h nofun

/-- A field of a section is checked where the section and the field are there; without
either it has its default. -/
theorem of_section {α β : Type} {part name : Text}
    {check : List (Text × Value) → Checked α} {default a : α}
    {read : Value → Checked β} (get : α → β)
    (h : field given part default (section? check) = .ok a)
    (hfield : ∀ inner, check inner = .ok a →
      field inner name (get default) read = .ok (get a)) :
    checkedOr (get default) read ((given.lookup part).bind (·.get? name)) =
      .ok (get a) := by
  have hpart := of_field h
  cases hgiven : given.lookup part with
  | none =>
      rw [hgiven] at hpart
      exact congrArg (fun a => Checked.ok (get a)) (Except.ok.inj hpart)
  | some v =>
      rw [hgiven] at hpart
      obtain ⟨inner, rfl, hinner⟩ := table_of_section hpart
      exact of_field (hfield inner hinner)

/-- What passes the check has each setting from its own value, or by default. -/
theorem Setting.ofValue?_of_check {s : Settings} (h : Settings.check given = .ok s)
    (x : Setting) : x.ofValue? (x.valueIn given) = .ok (x.get s) := by
  obtain ⟨hversion, hanalyzer, hindexer, hdiagram⟩ := Settings.of_check h
  cases x with
  | version => exact of_field hversion
  | includePatterns => exact of_section (·.includePatterns) hanalyzer fun _ h =>
      (AnalyzerSettings.of_check h).1
  | excludePatterns => exact of_section (·.excludePatterns) hanalyzer fun _ h =>
      (AnalyzerSettings.of_check h).2.1
  | maxDepth => exact of_section (·.maxDepth) hanalyzer fun _ h =>
      (AnalyzerSettings.of_check h).2.2.1
  | recordCalls => exact of_section (·.recordCalls) hanalyzer fun _ h =>
      (AnalyzerSettings.of_check h).2.2.2
  | enabled =>
      exact of_section (·.enabled) hindexer fun _ h => (IndexerSettings.of_check h).1
  | baseUrl =>
      exact of_section (·.baseUrl) hindexer fun _ h => (IndexerSettings.of_check h).2.1
  | timeout =>
      exact of_section (·.timeout) hindexer fun _ h => (IndexerSettings.of_check h).2.2.1
  | concurrency => exact of_section (·.concurrency) hindexer fun _ h =>
      (IndexerSettings.of_check h).2.2.2
  | maxNodes =>
      exact of_section (·.maxNodes) hdiagram fun _ h => (DiagramSettings.of_check h).1
  | direction =>
      exact of_section (·.direction) hdiagram fun _ h => (DiagramSettings.of_check h).2

/-- In what passes the check every section that is there is a table. -/
theorem Setting.table_of_check {s : Settings} {x : Setting} {part : Text} {v : Value}
    (h : Settings.check given = .ok s) (hpart : x.section? = some part)
    (hv : given.lookup part = some v) : ∃ inner, v = .table inner := by
  obtain ⟨-, hanalyzer, hindexer, hdiagram⟩ := Settings.of_check h
  have htable {α : Type} {check : List (Text × Value) → Checked α} {default a : α}
      (h : checkedOr default (ImpactGraph.section? check) (given.lookup part) = .ok a) :
      ∃ inner, v = .table inner := by
    rw [hv] at h
    obtain ⟨inner, hinner, -⟩ := table_of_section h
    exact ⟨inner, hinner⟩
  cases x <;> cases hpart
  iterate 4 exact htable (of_field hanalyzer)
  iterate 4 exact htable (of_field hindexer)
  iterate 2 exact htable (of_field hdiagram)

end Parts

/-- A value that is no setting, whatever the check. -/
def Value.IsBlunt (v : Value) : Prop := v = .null ∨ ∃ fields, v = .table fields

theorem Setting.not_isBlunt {x : Setting} {v : Value} {a : x.Kind}
    (h : x.check v = .ok a) : ¬ v.IsBlunt := by
  rintro (rfl | ⟨fields, rfl⟩) <;> cases x <;> exact absurd h nofun

end ImpactGraph
