import ImpactGraph.Proofs.Listing
import ImpactGraph.Extraction

/-!
# Facts in closed form

A fold over findings hides what it comes to: the imports are those among the
findings, in their order, and the exports and edges are the distinct ones
among them. What a rule finds can then be compared list by list, and no proof
after this one has to follow the fold.
-/

namespace ImpactGraph

namespace Finding

/-- The import that a finding is. -/
def import? : Finding → Option Import
  | imports i => some i
  | _ => none

/-- The file that a finding leads to. -/
def target? : Finding → Option Text
  | dependsOn target => some target
  | _ => none

/-- The name that a finding exports. -/
def export? : Finding → Option Text
  | exports name => some name
  | _ => none

@[simp] theorem import?_imports (i : Import) : (imports i).import? = some i := rfl
@[simp] theorem import?_dependsOn (target : Text) :
    (dependsOn target).import? = none := rfl
@[simp] theorem import?_exports (name : Text) : (exports name).import? = none := rfl
@[simp] theorem target?_imports (i : Import) : (imports i).target? = none := rfl
@[simp] theorem target?_dependsOn (target : Text) :
    (dependsOn target).target? = some target := rfl
@[simp] theorem target?_exports (name : Text) : (exports name).target? = none := rfl
@[simp] theorem export?_imports (i : Import) : (imports i).export? = none := rfl
@[simp] theorem export?_dependsOn (target : Text) :
    (dependsOn target).export? = none := rfl
@[simp] theorem export?_exports (name : Text) : (exports name).export? = some name := rfl

section Members

variable {found : List Finding} {f : Finding} {i : Import} {target name : Text}

theorem import?_eq_some : f.import? = some i ↔ f = imports i := by
  cases f <;> simp

theorem target?_eq_some : f.target? = some target ↔ f = dependsOn target := by
  cases f <;> simp

theorem export?_eq_some : f.export? = some name ↔ f = exports name := by
  cases f <;> simp

theorem mem_imports : i ∈ found.filterMap import? ↔ imports i ∈ found := by
  simp only [List.mem_filterMap, import?_eq_some, exists_eq_right]

theorem mem_targets : target ∈ found.filterMap target? ↔ dependsOn target ∈ found := by
  simp only [List.mem_filterMap, target?_eq_some, exists_eq_right]

theorem mem_exports : name ∈ found.filterMap export? ↔ exports name ∈ found := by
  simp only [List.mem_filterMap, export?_eq_some, exists_eq_right]

theorem imports_of_exports (names : List Text) :
    (names.map exports).filterMap import? = [] := by
  simp

theorem targets_of_exports (names : List Text) :
    (names.map exports).filterMap target? = [] := by
  simp

theorem imports_of_pairs (brought : List Import) :
    (brought.flatMap fun i => [imports i, dependsOn i.target]).filterMap import? =
      brought := by
  rw [List.filterMap_flatMap]
  exact List.flatMap_singleton' _

theorem targets_of_pairs (brought : List Import) :
    (brought.flatMap fun i => [imports i, dependsOn i.target]).filterMap target? =
      brought.map (·.target) := by
  rw [List.filterMap_flatMap, List.map_eq_flatMap]
  rfl

end Members

end Finding

namespace FileFacts

theorem addEdge_eq (facts : FileFacts) (target : Text) :
    facts.addEdge target = { facts with edges := Text.addNew facts.edges target } := by
  unfold addEdge Text.addNew
  split <;> rfl

theorem addExport_nil (facts : FileFacts) : facts.addExport [] = facts := rfl

theorem addExport_eq (facts : FileFacts) {name : Text} (h : name ≠ []) :
    facts.addExport name = { facts with exports := Text.addNew facts.exports name } := by
  simp only [addExport, Text.addNew, h, decide_false, Bool.false_or, decide_eq_true_eq]
  split <;> rfl

theorem foldl_record_eq (found : List Finding) (facts : FileFacts) :
    found.foldl record facts =
      { facts with
        exports :=
  ((found.filterMap Finding.export?).filter (· ≠ [])).foldl Text.addNew facts.exports
        imports := facts.imports ++ found.filterMap Finding.import?
        edges := (found.filterMap Finding.target?).foldl Text.addNew facts.edges } := by
  induction found generalizing facts with
  | nil => simp
  | cons f found ih =>
      rw [List.foldl_cons, ih]
      cases f with
      | imports i =>
          have himports : facts.imports ++ [i] ++ found.filterMap Finding.import? =
              facts.imports ++ (i :: found.filterMap Finding.import?) :=
                List.append_cons .. |>.symm
          rw [record, himports]
          rfl
      | dependsOn target => rw [record, addEdge_eq]; rfl
      | exports name =>
          have hexports : (Finding.exports name :: found).filterMap Finding.export? =
              name :: found.filterMap Finding.export? := rfl
          rw [record, hexports]
          by_cases hempty : name = []
          · rw [hempty, addExport_nil, List.filter_cons_of_neg (by simp)]
            rfl
          · rw [addExport_eq facts hempty,
              List.filter_cons_of_pos (by simpa using hempty)]
            rfl

/-- The facts of a file are the imports found, and the distinct exports and edges
found. -/
theorem ofFindings_eq (file : Text) (language : Language) (found : List Finding) :
    ofFindings file language found =
      { file := file
        language := some language
        exports := Text.distinct ((found.filterMap Finding.export?).filter (· ≠ []))
        imports := found.filterMap Finding.import?
        edges := Text.distinct (found.filterMap Finding.target?) } := by
  rw [ofFindings, foldl_record_eq, List.nil_append]
  rfl

end FileFacts

/-- Where the rules find something, the facts of a file are what is recorded of it, and
calls if they are asked for. -/
theorem Extractor.extract_of_findings {e : Extractor} {file content : Text}
    {language : Language} {found : List Finding}
    (hfile : Language.ofPath? file = some language)
    (hfound : findings e.workspace e.root file content language = .ok found) :
    e.extract file content = .ok
      { FileFacts.ofFindings file language found with
        calls :=
          if e.recordCalls then
            innerCalls content (FileFacts.ofFindings file language found) language
          else [] } := by
  rw [extract, hfile]
  simp only [hfound, Except.map, FileFacts.ofFindings_eq]
  split
  · rfl
  · rfl

end ImpactGraph
