import Mathlib.Data.List.Basic
import ImpactGraph.Proofs.ImportLines
import ImpactGraph.Proofs.PatternPlaces
import ImpactGraph.Proofs.RecordedFindings

/-!
# Scripts behind a line comment

The rule knows no comments. Four of its passes lead to other files, and each searches the
whole text, so it also reads what a comment says. Most of the time that only adds edges.
But a match may go over lines, and one that begins in a comment can reach into the script
below, where it takes away what a match of the same pass would begin with.

So a script behind a comment is read pass by pass: first what begins in the comment, and
then the script from where the last match that begins in the comment ends. A pass none of
whose matches reaches out of the comment finds all that it finds in the script alone.
-/

namespace ImpactGraph.Rules.JavaScript

open Text Pattern

/-- The passes that lead to other files. -/
inductive Pass where
  | imports
  | effects
  | calls
  | reexports
  deriving DecidableEq, Repr

namespace Pass

def all : List Pass := [imports, effects, calls, reexports]

def pattern : Pass → Pattern
  | imports => importFrom
  | effects => importBare
  | calls => requireCall
  | reexports => reexport

/-- What a pass finds at a match. -/
def found (site : Site) (m : Match) : Pass → List Finding
  | imports => importFindings site (m.part? .typeOnly).isSome (strip (m.part .clause))
  | effects => [.dependsOn site.target]
  | calls => requireFindings site (m.part? .clause)
  | reexports =>
    reexportFindings site (m.part? .typeOnly).isSome (m.part .clause) (m.part? .renamed)

/-- The site of a match, on a given line. -/
def site (w : Workspace) (root file : Text) (line : Nat) (m : Match) : Site :=
  ⟨m.part .source, Resolve.javascript w root file (m.part .source), line⟩

/-- The files that the matches of a pass lead to. -/
def edges (w : Workspace) (root file : Text) (pass : Pass)
    (found : List Match) : List Text :=
  found.flatMap fun m => (pass.found (site w root file 1 m) m).filterMap Finding.target?

end Pass

/-! ## The lines do not matter -/

section Lines

variable {source target : Text} {line other : Nat}

theorem target?_bring (site : Site) (symbol : Text) (kind : ImportKind)
    (renamed : Option Text) :
    (site.bring symbol kind renamed).target? = none := rfl

theorem targets_headBindings (site : Site) (typeOnly : Bool) (head : Text) :
    (headBindings site typeOnly head).filterMap Finding.target? = [] := by
  unfold headBindings
  dsimp only
  repeat' split
  all_goals simp [target?_bring]

theorem headBindings_eq_nil_iff (typeOnly : Bool) (head : Text) :
    headBindings ⟨source, target, line⟩ typeOnly head = [] ↔
      headBindings ⟨source, target, other⟩ typeOnly head = [] := by
  unfold headBindings
  dsimp only
  repeat' split
  all_goals simp

theorem targets_clauseBindings (site : Site) (typeOnly : Bool) (clause : Text) :
    (clauseBindings site typeOnly clause).filterMap Finding.target? = [] := by
  unfold clauseBindings
  simp [targets_headBindings, List.filterMap_eq_nil_iff, target?_bring]

theorem clauseBindings_eq_nil_iff (typeOnly : Bool) (clause : Text) :
    clauseBindings ⟨source, target, line⟩ typeOnly clause = [] ↔
      clauseBindings ⟨source, target, other⟩ typeOnly clause = [] := by
  unfold clauseBindings
  simp only [List.append_eq_nil_iff, List.map_eq_nil_iff]
  rw [@headBindings_eq_nil_iff source target line other]

theorem targets_importFindings (typeOnly : Bool) (clause : Text) :
    (importFindings ⟨source, target, line⟩ typeOnly clause).filterMap Finding.target? =
      (importFindings ⟨source, target, other⟩ typeOnly clause).filterMap
        Finding.target? := by
  unfold importFindings
  simp only [ne_eq, @clauseBindings_eq_nil_iff source target line other]
  repeat' split
  all_goals simp [targets_clauseBindings]

theorem targets_requireFindings (site : Site) (binding : Option Text) :
    (requireFindings site binding).filterMap Finding.target? = [site.target] := by
  unfold requireFindings
  rw [List.filterMap_append]
  repeat' split
  all_goals simp [List.filterMap_map, Function.comp_def, target?_bring]

theorem targets_reexportFindings (site : Site) (typeOnly : Bool) (spec : Text)
    (renamed : Option Text) :
    (reexportFindings site typeOnly spec renamed).filterMap Finding.target? =
      [site.target] := by
  unfold reexportFindings
  rw [List.filterMap_append]
  repeat' split
  all_goals simp [List.filterMap_flatMap, target?_bring]

/-- The files that a match leads to are the same on every line. -/
theorem targets_found (pass : Pass) (m : Match) :
    (pass.found ⟨source, target, line⟩ m).filterMap Finding.target? =
      (pass.found ⟨source, target, other⟩ m).filterMap Finding.target? := by
  cases pass with
  | imports => exact targets_importFindings _ _
  | effects => rfl
  | calls => rw [Pass.found, Pass.found, targets_requireFindings, targets_requireFindings]
  | reexports =>
      rw [Pass.found, Pass.found, targets_reexportFindings, targets_reexportFindings]

end Lines

/-! ## Edges pass by pass -/

section Edges

variable {w : Workspace} {root file content : Text} {pass : Pass}

namespace Pass

theorem found_move (site : Site) (n : Nat) (m : Match) :
    pass.found site (m.move n) = pass.found site m := by
  cases pass <;> simp only [found, Match.move_part, Match.move_part?]

theorem edges_append (a b : List Match) :
    pass.edges w root file (a ++ b) = pass.edges w root file a ++
      pass.edges w root file b := List.flatMap_append

theorem edges_move (n : Nat) (ms : List Match) :
    pass.edges w root file (ms.map (Match.move n)) = pass.edges w root file ms := by
  rw [edges, edges, List.flatMap_map]
  refine List.flatMap_congr fun m _ => ?_
  rw [found_move, site, site, Match.move_part]

/-- No pass looks at more of what is before a place than whether it is a letter. -/
theorem ignoresBreak (pass : Pass) : pass.pattern.IgnoresBreak := by
  cases pass
  all_goals repeat' constructor

end Pass

/-- The findings are those of the four passes and names that are exported. -/
theorem exists_findings_eq (w : Workspace) (root file content : Text) :
    ∃ exported : List Text,
    findings w root file content =
      (Pass.all.flatMap fun pass => (pass.pattern.findAll content).flatMap fun m =>
        pass.found (Pass.site w root file (lineAt content m.start) m) m) ++
          exported.map .exports := by
  refine ⟨(exportDeclaration.findAll content).map (·.part .name) ++
    ((exportList.findAll content).flatMap fun m =>
      (specifiers (m.part .clause)).map (·.imported)) ++
    (exportDefault.findAll content).flatMap fun m =>
      if m.part .name ∈ declarationWords then [] else [m.part .name], ?_⟩
  have hdefault : ((exportDefault.findAll content).flatMap fun m =>
        if m.part .name ∈ declarationWords then [] else
          [m.part .name]).map Finding.exports =
      (exportDefault.findAll content).flatMap fun m =>
        if m.part .name ∈ declarationWords then [] else [.exports (m.part .name)] := by
    rw [List.map_flatMap]
    refine List.flatMap_congr fun m _ => ?_
    split <;> rfl
  unfold findings
  simp only [Pass.all, List.flatMap_cons, List.flatMap_nil, List.append_nil,
    List.map_append, List.map_map, List.map_flatMap, List.append_assoc, hdefault]
  rw [List.map_eq_flatMap]
  rfl

theorem targets_findings (w : Workspace) (root file content : Text) :
    (findings w root file content).filterMap Finding.target? =
      Pass.all.flatMap fun pass =>
        pass.edges w root file (pass.pattern.findAll content) := by
  obtain ⟨exported, hfindings⟩ := exists_findings_eq w root file content
  rw [hfindings, List.filterMap_append, Finding.targets_of_exports, List.append_nil,
    List.filterMap_flatMap]
  refine List.flatMap_congr fun pass _ => ?_
  rw [List.filterMap_flatMap]
  exact List.flatMap_congr fun m _ => targets_found pass m

theorem mem_edges_iff (language : Language) {target : Text} :
    target ∈ (FileFacts.ofFindings file language (findings w root file content)).edges ↔
      ∃ pass : Pass, target ∈ pass.edges w root file (pass.pattern.findAll content) := by
  have hall (pass : Pass) : pass ∈ Pass.all := by cases pass <;> decide
  rw [FileFacts.ofFindings_eq]
  show target ∈ distinct ((findings w root file content).filterMap Finding.target?) ↔ _
  rw [mem_distinct, targets_findings, List.mem_flatMap]
  exact ⟨fun ⟨pass, _, hmem⟩ => ⟨pass, hmem⟩, fun ⟨pass, hmem⟩ => ⟨pass, hall pass, hmem⟩⟩

end Edges

/-! ## Behind a comment -/

namespace Pass

/-- The words of which one is at the beginning of every match of a pass. -/
def words : Pass → List Text
  | imports => ["import".toList]
  | effects => ["import".toList]
  | calls => ["const", "let", "var"].map String.toList ++ ["require".toList]
  | reexports => ["export".toList]

theorem opens (pass : Pass) : pass.pattern.Opens pass.words := by
  cases pass <;> exact opens_of_openings rfl

end Pass

/-- A comment on a line of its own. -/
def lineComment (remark : Text) : Text := "//".toList ++ remark ++ ['\n']

theorem getLast?_lineComment (remark : Text) :
    (lineComment remark).getLast? = some '\n' := List.getLast?_concat

theorem spill_eq_zero {remark : Text} {pass : Pass}
    (h : ∀ word ∈ pass.words, ¬ word <:+: lineComment remark) (content : Text) :
    pass.pattern.spill (lineComment remark) content = 0 := by
  have hbreak : ∀ word ∈ pass.words, '\n' ∉ word := by cases pass <;> decide
  have hnone :=
    begun_eq_nil pass.opens (fun word hword => ⟨hbreak word hword, h word hword⟩)
    (getLast?_lineComment remark) content
  rw [spill, hnone]
  rfl

/-- Behind a line comment a pass leads where its matches in the comment lead, and where it
leads in the script from the end of the last of these. So a pass keeps all its edges
unless a match that begins in the comment goes beyond it, for which the comment has to
hold a word that matches begin with. -/
theorem edges_behind_comment (w : Workspace) (root file : Text) (language : Language)
    (remark content : Text) :
    let comment := lineComment remark
    let edges (text : Text) :=
      (FileFacts.ofFindings file language (findings w root file text)).edges
    let spill (pass : Pass) := pass.pattern.spill comment content
    (∀ target, target ∈ edges (comment ++ content) ↔ ∃ pass : Pass,
        target ∈ pass.edges w root file (pass.pattern.begun comment content) ∨
          target ∈
            pass.edges w root file (pass.pattern.findFrom none 0 (spill pass) content)) ∧
      (∀ pass : Pass, spill pass = 0 →
        ∀ target ∈ pass.edges w root file (pass.pattern.findAll content),
        target ∈ edges (comment ++ content)) ∧
      ((∀ pass : Pass, spill pass = 0) → ∀ target ∈ edges content,
        target ∈ edges (comment ++ content)) ∧
      ∀ pass : Pass, (∀ word ∈ pass.words, ¬ word <:+: comment) → spill pass = 0 := by
  intro comment edges spill
  have hedges (target : Text) : target ∈ edges (comment ++ content) ↔ ∃ pass : Pass,
      target ∈ pass.edges w root file (pass.pattern.begun comment content) ∨
        target ∈
          pass.edges w root file (pass.pattern.findFrom none 0 (spill pass) content) := by
    refine (mem_edges_iff language).trans (exists_congr fun pass => ?_)
    rw [findAll_behind_line pass.ignoresBreak (getLast?_lineComment remark),
      Pass.edges_append, Pass.edges_move, List.mem_append]
  have hkept (pass : Pass) (hnone : spill pass = 0) (target : Text)
      (hmem : target ∈ pass.edges w root file (pass.pattern.findAll content)) :
      target ∈ edges (comment ++ content) := by
    refine (hedges target).2 ⟨pass, .inr ?_⟩
    rw [hnone]
    exact hmem
  refine ⟨hedges, hkept, fun hnone target hmem => ?_, fun pass hword =>
    spill_eq_zero hword content⟩
  obtain ⟨pass, hpass⟩ := (mem_edges_iff language).1 hmem
  exact hkept pass (hnone pass) target hpass

/-- Two scripts, one of which imports the other. -/
def twoScripts : Workspace where
  cwd := "/proj".toList
  tree :=
    .directory [("proj".toList,
      .directory [("main.js".toList, .file []), ("a.js".toList, .file [])])]

/-- A comment that goes on like an import on its own line only. -/
theorem edges_behind_comment_of_order :
    let edges (text : String) := (FileFacts.ofFindings "/proj/main.js".toList .javascript
      (findings twoScripts "/proj".toList "/proj/main.js".toList text.toList)).edges
    edges "import a from './a';\n" = ["/proj/a.js".toList] ∧
      "/proj/a.js".toList ∈
        edges "// import order, see docs.\nimport a from './a';\n" := by
  intro edges
  have hedges : edges "import a from './a';\n" = ["/proj/a.js".toList] := by decide
  obtain ⟨-, -, hkept, -⟩ :=
    edges_behind_comment twoScripts "/proj".toList "/proj/main.js".toList .javascript
    " import order, see docs.".toList "import a from './a';\n".toList
  refine ⟨hedges, hkept (fun pass => ?_) _ ?_⟩
  · cases pass <;> decide
  · show _ ∈ edges "import a from './a';\n"
    rw [hedges]
    exact List.mem_cons_self

/-- A comment that goes on like an import below takes the import there with it. -/
theorem lost_edge_behind_comment :
    let edges (text : String) := (FileFacts.ofFindings "/proj/main.js".toList .javascript
      (findings twoScripts "/proj".toList "/proj/main.js".toList text.toList)).edges
    edges "import a from './a';\n" = ["/proj/a.js".toList] ∧
      edges "// import x\nimport a from './a';\n" = [] := by
  decide

end ImpactGraph.Rules.JavaScript
