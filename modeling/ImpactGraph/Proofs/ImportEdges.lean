import ImpactGraph.Proofs.CanonicalTargets
import ImpactGraph.Proofs.RecordedFindings

/-!
# Imports and edges go together

An import and the edge it stands for are separate findings, and no rule
reports them in one step. `Backed` asks that every import among some findings
has its edge there too, and a line that the text has; `Sourced` asks that
every edge has an import. Both are kept when lists are put one after another,
so it is enough to look at what one match gives. There every rule ends with
the edge that its imports need, and the rules of JavaScript alone may end
with it when nothing was imported.
-/

namespace ImpactGraph

/-! ## Lists of findings -/

/-- A line that a text has. -/
def IsLineOf (content : Text) (line : Int) : Prop :=
  1 ≤ line ∧ line ≤ content.count '\n' + 1

theorem isLineOf_lineAt (content : Text) (offset : Nat) :
    IsLineOf content (lineAt content offset) := by
  have hcount : (content.take offset).count '\n' ≤ content.count '\n' :=
    (List.take_sublist offset content).count_le '\n'
  unfold IsLineOf lineAt
  omega

/-- Every import has its edge, and a line of the text. -/
def Backed (content : Text) (found : List Finding) : Prop :=
  ∀ i, .imports i ∈ found → .dependsOn i.target ∈ found ∧ IsLineOf content i.line

/-- Every edge has an import. -/
def Sourced (found : List Finding) : Prop :=
  ∀ target, .dependsOn target ∈ found → ∃ i, .imports i ∈ found ∧ i.target = target

variable {content : Text} {found more : List Finding}

theorem Backed.append (h : Backed content found) (h' : Backed content more) :
    Backed content (found ++ more) := by
  intro i hi
  rcases List.mem_append.1 hi with hi | hi
  · exact ⟨List.mem_append_left _ (h i hi).1, (h i hi).2⟩
  · exact ⟨List.mem_append_right _ (h' i hi).1, (h' i hi).2⟩

theorem Sourced.append (h : Sourced found) (h' : Sourced more) :
    Sourced (found ++ more) := by
  intro target ht
  rcases List.mem_append.1 ht with ht | ht
  · obtain ⟨i, hi, htarget⟩ := h target ht
    exact ⟨i, List.mem_append_left _ hi, htarget⟩
  · obtain ⟨i, hi, htarget⟩ := h' target ht
    exact ⟨i, List.mem_append_right _ hi, htarget⟩

theorem Backed.flatten {lists : List (List Finding)}
    (h : ∀ found ∈ lists, Backed content found) : Backed content lists.flatten := by
  intro i hi
  obtain ⟨found, hmem, hi⟩ := List.mem_flatten.1 hi
  obtain ⟨hedge, hline⟩ := h found hmem i hi
  exact ⟨List.mem_flatten.2 ⟨found, hmem, hedge⟩, hline⟩

theorem Sourced.flatten {lists : List (List Finding)}
    (h : ∀ found ∈ lists, Sourced found) : Sourced lists.flatten := by
  intro target ht
  obtain ⟨found, hmem, ht⟩ := List.mem_flatten.1 ht
  obtain ⟨i, hi, htarget⟩ := h found hmem target ht
  exact ⟨i, List.mem_flatten.2 ⟨found, hmem, hi⟩, htarget⟩

theorem Backed.flatMap {α : Type} {items : List α} {f : α → List Finding}
    (h : ∀ a ∈ items, Backed content (f a)) : Backed content (items.flatMap f) := by
  rw [List.flatMap_def]
  refine .flatten fun found hmem => ?_
  obtain ⟨a, ha, rfl⟩ := List.mem_map.1 hmem
  exact h a ha

theorem Sourced.flatMap {α : Type} {items : List α} {f : α → List Finding}
    (h : ∀ a ∈ items, Sourced (f a)) : Sourced (items.flatMap f) := by
  rw [List.flatMap_def]
  refine .flatten fun found hmem => ?_
  obtain ⟨a, ha, rfl⟩ := List.mem_map.1 hmem
  exact h a ha

theorem Backed.nil : Backed content [] := fun _ h => absurd h List.not_mem_nil

theorem Sourced.nil : Sourced [] := fun _ h => absurd h List.not_mem_nil

theorem notMem_exports {α : Type} {items : List α} {name : α → Text} {f : Finding}
    (hf : ∀ name, f ≠ .exports name) : f ∉ items.map fun item =>
      Finding.exports (name item) := by
  intro hmem
  obtain ⟨item, -, rfl⟩ := List.mem_map.1 hmem
  exact hf _ rfl

theorem Backed.exports {α : Type} (items : List α) (name : α → Text) :
    Backed content (items.map fun item => .exports (name item)) :=
  fun _ h => absurd h (notMem_exports (by simp))

theorem Sourced.exports {α : Type} (items : List α) (name : α → Text) :
    Sourced (items.map fun item => .exports (name item)) :=
  fun _ h => absurd h (notMem_exports (by simp))

theorem Backed.pair {i : Import} (hline : IsLineOf content i.line) :
    Backed content [.imports i, .dependsOn i.target] := by
  intro j hj
  obtain rfl : j = i := by simpa using hj
  exact ⟨by simp, hline⟩

theorem Sourced.pair (i : Import) : Sourced [.imports i, .dependsOn i.target] := by
  intro target ht
  have htarget : target = i.target := by simpa using ht
  exact ⟨i, by simp, htarget.symm⟩

/-! ## One match -/

namespace Rules

variable {w : Workspace} {root file : Text} {line : Nat}

namespace JavaScript

variable {site : Site}

/-- All imports at a site need one edge. -/
theorem backed_of_covers (hline : IsLineOf content site.line)
    (hcovers : ∀ f ∈ found, site.Covers f) (hedge : .dependsOn site.target ∈ found) :
    Backed content found := by
  intro i hi
  obtain ⟨htarget, hat⟩ := hcovers _ hi
  rw [htarget, hat]
  exact ⟨hedge, hline⟩

theorem backed_importFindings (hline : IsLineOf content site.line) (typeOnly : Bool)
    (clause : Text) : Backed content (importFindings site typeOnly clause) := by
  have hcovers := fun f (hf : f ∈ importFindings site typeOnly clause) =>
    (finds_of_mem_importFindings hf).covers
  unfold importFindings at hcovers ⊢
  simp only [] at hcovers ⊢
  split at hcovers
  · next hbraces => rw [if_pos hbraces]; exact .nil
  · next hbraces =>
      rw [if_neg hbraces]
      split at hcovers
      · next hsome =>
          rw [if_pos hsome]
          exact backed_of_covers hline hcovers (by simp)
      · next hnone => rw [if_neg hnone]; exact .nil

theorem backed_findings (w : Workspace) (root file content : Text) :
    Backed content (findings w root file content) := by
  have hline (m : Match) : IsLineOf content (lineAt content m.start) :=
    isLineOf_lineAt content m.start
  unfold findings
  simp only []
  refine
    ((((((Backed.flatMap fun m _ => ?_).append ?_).append (.flatMap fun m _ => ?_)).append
    (.flatMap fun m _ => ?_)).append (.exports _ _)).append (.flatMap
      fun m _ => ?_)).append
    (.flatMap fun m _ => ?_)
  · exact backed_importFindings (hline m) _ _
  · exact fun i hi => absurd hi (by simp)
  · exact backed_of_covers (hline m) (fun f hf =>
      (finds_of_mem_requireFindings hf).covers)
      (by simp [requireFindings])
  · exact backed_of_covers (hline m) (fun f hf =>
      (finds_of_mem_reexportFindings hf).covers)
      (by simp [reexportFindings])
  · exact .exports _ _
  · split
    · exact .nil
    · exact .exports [m] fun m => m.part .name

end JavaScript

namespace Python

/-- What one name of an import from a package finds is paired up, but for the edge to the
package, which it asks for. -/
theorem nameFindings_cases (w : Workspace) (root file package target : Text) (line : Nat)
    (entry : Text × Option Text) :
    (∃ i : Import, i.target = target ∧ i.line = line ∧
        nameFindings w root file package target line entry = ([.imports i], true)) ∨
      (∃ i : Import, i.line = line ∧ nameFindings w root file package target line entry =
        ([.dependsOn i.target, .imports i], false)) ∨
      nameFindings w root file package target line entry = ([], false) := by
  unfold nameFindings
  split
  · exact .inl ⟨_, rfl, rfl, rfl⟩
  · split
    · exact .inr (.inr rfl)
    · split
      · exact .inr (.inl ⟨⟨_, _, _, _, _, _⟩, rfl, rfl⟩)
      · exact .inl ⟨_, rfl, rfl, rfl⟩

theorem backed_fromFindings (hline : IsLineOf content line) (package clause : Text) :
    Backed content (fromFindings w root file package clause line) := by
  intro i hi
  unfold fromFindings at hi ⊢
  simp only [] at hi ⊢
  have hfound : Finding.imports i ∈ ((importedNames clause).map
      (nameFindings w root file package
        (Resolve.python w root file package) line)).flatMap (·.1) := by
    rcases List.mem_append.1 hi with hi | hi
    · exact hi
    · split at hi <;> simp at hi
  obtain ⟨one, hone, hi⟩ := List.mem_flatMap.1 hfound
  obtain ⟨entry, hentry, rfl⟩ := List.mem_map.1 hone
  rcases nameFindings_cases w root file package (Resolve.python w root file package)
    line entry with
    ⟨j, htarget, hj, hcase⟩ | ⟨j, hj, hcase⟩ | hcase
  · rw [hcase] at hi
    obtain rfl : i = j := by simpa using hi
    refine ⟨List.mem_append_right _ ?_, hj.symm ▸ hline⟩
    rw [if_pos (List.any_eq_true.2 ⟨_, List.mem_map_of_mem hentry, by rw [hcase]⟩),
      htarget]
    exact List.mem_cons_self
  · rw [hcase] at hi
    obtain rfl : i = j := by simpa using hi
    refine
      ⟨List.mem_append_left _ (List.mem_flatMap.2 ⟨_, List.mem_map_of_mem hentry, ?_⟩),
      hj.symm ▸ hline⟩
    rw [hcase]
    exact List.mem_cons_self
  · rw [hcase] at hi
    exact absurd hi List.not_mem_nil

theorem sourced_fromFindings (w : Workspace) (root file package clause : Text)
    (line : Nat) : Sourced (fromFindings w root file package clause line) := by
  intro target ht
  unfold fromFindings at ht ⊢
  simp only [] at ht ⊢
  rcases List.mem_append.1 ht with ht | ht
  · obtain ⟨one, hone, ht⟩ := List.mem_flatMap.1 ht
    obtain ⟨entry, hentry, rfl⟩ := List.mem_map.1 hone
    rcases nameFindings_cases w root file package
      (Resolve.python w root file package) line entry
      with ⟨i, -, -, hcase⟩ | ⟨i, -, hcase⟩ | hcase
    · rw [hcase] at ht
      exact absurd ht (by simp)
    · rw [hcase] at ht
      have htarget : target = i.target := by simpa using ht
      refine ⟨i,
        List.mem_append_left _ (List.mem_flatMap.2 ⟨_, List.mem_map_of_mem hentry, ?_⟩),
        htarget.symm⟩
      rw [hcase]
      simp
    · rw [hcase] at ht
      exact absurd ht List.not_mem_nil
  · -- The edge to the package is there because some name asked for it.
    split at ht
    · next hany =>
        obtain ⟨one, hone, hneeds⟩ := List.any_eq_true.1 hany
        obtain ⟨entry, hentry, rfl⟩ := List.mem_map.1 hone
        have htarget : target = Resolve.python w root file package := by simpa using ht
        rcases nameFindings_cases w root file package
          (Resolve.python w root file package) line entry
          with ⟨i, hi, -, hcase⟩ | ⟨i, -, hcase⟩ | hcase
        · refine ⟨i, List.mem_append_left _
            (List.mem_flatMap.2 ⟨_, List.mem_map_of_mem hentry, ?_⟩),
            hi.trans htarget.symm⟩
          rw [hcase]
          exact List.mem_cons_self
        · rw [hcase] at hneeds
          exact absurd hneeds Bool.false_ne_true
        · rw [hcase] at hneeds
          exact absurd hneeds Bool.false_ne_true
    · exact absurd ht List.not_mem_nil

theorem backed_plainFindings (hline : IsLineOf content line) (clause : Text) :
    Backed content (plainFindings w root file clause line) := by
  refine .flatMap fun entry _ => ?_
  split
  · exact .pair hline
  · exact .nil

theorem sourced_plainFindings (w : Workspace) (root file clause : Text) (line : Nat) :
    Sourced (plainFindings w root file clause line) := by
  refine .flatMap fun entry _ => ?_
  split
  · exact .pair _
  · exact .nil

theorem backed_findings (w : Workspace) (root file content : Text) :
    Backed content (findings w root file content) :=
  (((Backed.flatMap fun _ _ => backed_fromFindings (isLineOf_lineAt content _) _ _).append
    (.flatMap fun _ _ => backed_plainFindings (isLineOf_lineAt content _) _)).append
    (.exports _ _)).append (.flatMap fun _ _ => .exports _ _)

theorem sourced_findings (w : Workspace) (root file content : Text) :
    Sourced (findings w root file content) :=
  (((Sourced.flatMap fun _ _ => sourced_fromFindings w root file _ _ _).append
    (.flatMap fun _ _ => sourced_plainFindings w root file _ _)).append
    (.exports _ _)).append (.flatMap fun _ _ => .exports _ _)

end Python

namespace Java

theorem backed_findings (w : Workspace) (root content : Text) :
    Backed content (findings w root content) := by
  refine (Backed.flatMap fun m _ => ?_).append (.exports _ _)
  have hline := isLineOf_lineAt content m.start
  unfold importFindings
  cases (m.part? .wildcard).isSome <;> exact .pair hline

theorem sourced_findings (w : Workspace) (root content : Text) :
    Sourced (findings w root content) := by
  refine (Sourced.flatMap fun m _ => ?_).append (.exports _ _)
  unfold importFindings
  cases (m.part? .wildcard).isSome <;> exact .pair _

end Java

namespace Rust

theorem backed_allFindings (w : Workspace) (root file content : Text) :
    Backed content (allFindings w root file content) :=
  ((Backed.flatMap fun m _ => .pair (isLineOf_lineAt content m.start)).append
    (.flatMap fun m _ => .flatMap fun _ _ =>
      .pair (isLineOf_lineAt content m.start))).append
    (.exports _ _)

theorem sourced_allFindings (w : Workspace) (root file content : Text) :
    Sourced (allFindings w root file content) :=
  ((Sourced.flatMap fun _ _ => .pair _).append
    (.flatMap fun _ _ => .flatMap fun _ _ => .pair _)).append (.exports _ _)

end Rust

namespace Go

theorem exists_line_of_mem_importSpecs {spec : Option Text × Text × Nat}
    (h : spec ∈ importSpecs content) : ∃ offset, spec.2.2 = lineAt content offset := by
  rcases List.mem_append.1 h with h | h
  · obtain ⟨m, -, rfl⟩ := List.mem_map.1 h
    exact ⟨_, rfl⟩
  · obtain ⟨block, -, h⟩ := List.mem_flatMap.1 h
    obtain ⟨m, -, rfl⟩ := List.mem_map.1 h
    exact ⟨_, rfl⟩

/-- What the imports of a text find, each with its edge. -/
theorem pairs_of_findings (h : findings w root file content = .ok found) :
    ∃ imports : List (List Finding),
      found = imports.flatten ++ (exportedNames content).map .exports ∧
      ∀ one ∈ imports, ∃ i : Import, one = [.imports i, .dependsOn i.target] ∧
        IsLineOf content i.line := by
  obtain ⟨imports, himports, rfl⟩ := ok_of_map_eq_ok h
  refine ⟨imports, rfl, fun one hone => ?_⟩
  obtain ⟨spec, hspec, hanswer⟩ := exists_of_mem_mapM himports hone
  obtain ⟨target, -, rfl⟩ := ok_of_map_eq_ok hanswer
  obtain ⟨offset, hoffset⟩ := exists_line_of_mem_importSpecs hspec
  refine ⟨_, rfl, ?_⟩
  rw [hoffset]
  exact isLineOf_lineAt content offset

theorem backed_of_findings (h : findings w root file content = .ok found) :
    Backed content found := by
  obtain ⟨imports, rfl, hpairs⟩ := pairs_of_findings h
  refine (Backed.flatten fun one hone => ?_).append (.exports _ id)
  obtain ⟨i, rfl, hline⟩ := hpairs one hone
  exact .pair hline

theorem sourced_of_findings (h : findings w root file content = .ok found) :
    Sourced found := by
  obtain ⟨imports, rfl, hpairs⟩ := pairs_of_findings h
  refine (Sourced.flatten fun one hone => ?_).append (.exports _ id)
  obtain ⟨i, rfl, -⟩ := hpairs one hone
  exact .pair i

end Go

end Rules

/-! ## Every language -/

variable {w : Workspace} {root file : Text} {language : Language}

theorem backed_of_findings (h : findings w root file content language = .ok found) :
    Backed content found := by
  cases language with
  | go => exact Rules.Go.backed_of_findings (mapError_eq_ok_iff.1 h)
  | typescript | javascript =>
      rw [← Except.ok.inj h]
      exact Rules.JavaScript.backed_findings _ _ _ _
  | python =>
      rw [← Except.ok.inj h]
      exact Rules.Python.backed_findings _ _ _ _
  | java =>
      rw [← Except.ok.inj h]
      exact Rules.Java.backed_findings _ _ _
  | rust =>
      rw [Rules.Rust.eq_allFindings (mapError_eq_ok_iff.1 h)]
      exact Rules.Rust.backed_allFindings _ _ _ _

/-- Edges without an import are found in JavaScript and TypeScript only. -/
theorem sourced_of_findings (h : findings w root file content language = .ok found)
    (hlanguage : language ∈ [Language.python, .go, .java, .rust]) : Sourced found := by
  cases language with
  | go => exact Rules.Go.sourced_of_findings (mapError_eq_ok_iff.1 h)
  | typescript | javascript => exact absurd hlanguage (by decide)
  | python =>
      rw [← Except.ok.inj h]
      exact Rules.Python.sourced_findings _ _ _ _
  | java =>
      rw [← Except.ok.inj h]
      exact Rules.Java.sourced_findings _ _ _
  | rust =>
      rw [Rules.Rust.eq_allFindings (mapError_eq_ok_iff.1 h)]
      exact Rules.Rust.sourced_allFindings _ _ _ _

/-- The imports and edges of an extracted file are those found in its text. -/
theorem Extractor.lists_of_extract {e : Extractor} {facts : FileFacts}
    (h : e.extract file content = .ok facts)
    (hlanguage : Language.ofPath? file = some language) :
    ∃ found, findings e.workspace e.root file content language = .ok found ∧
      facts.imports = found.filterMap Finding.import? ∧
      facts.edges = Text.distinct (found.filterMap Finding.target?) := by
  unfold extract at h
  rw [hlanguage] at h
  obtain ⟨found, hfound, hfacts⟩ := ok_of_map_eq_ok h
  refine ⟨found, hfound, ?_⟩
  have heq := FileFacts.ofFindings_eq file language found
  simp only [] at hfacts
  split at hfacts <;> rw [← hfacts, heq] <;> exact ⟨rfl, rfl⟩

theorem Extractor.lists_of_unknown {e : Extractor} {facts : FileFacts}
    (h : e.extract file content = .ok facts) (hlanguage : Language.ofPath? file = none) :
    facts.imports = [] ∧ facts.edges = [] := by
  unfold extract at h
  rw [hlanguage] at h
  rw [← Except.ok.inj h]
  exact ⟨rfl, rfl⟩

/-- Whatever the text, every import of an extracted file has its edge and a line of the
text; and in a language other than JavaScript and TypeScript every edge has an import. -/
theorem imports_match_edges {e : Extractor} {facts : FileFacts}
    (h : e.extract file content = .ok facts) :
    (∀ i ∈ facts.imports, i.target ∈ facts.edges ∧ 1 ≤ i.line ∧
      i.line ≤ content.count '\n' + 1) ∧
      (∀ language ∈ [Language.python, .go, .java, .rust],
        Language.ofPath? file = some language →
        ∀ target ∈ facts.edges, ∃ i ∈ facts.imports, i.target = target) := by
  cases hlanguage : Language.ofPath? file with
  | none =>
      obtain ⟨himports, hedges⟩ := e.lists_of_unknown h hlanguage
      refine ⟨fun i hi => ?_, fun _ _ hnone => absurd hnone (by simp)⟩
      rw [himports] at hi
      exact absurd hi List.not_mem_nil
  | some language =>
      obtain ⟨found, hfound, himports, hedges⟩ := e.lists_of_extract h hlanguage
      rw [himports, hedges]
      refine ⟨fun i hi => ?_, fun other hother hsame target ht => ?_⟩
      · obtain ⟨hedge, hline⟩ := backed_of_findings hfound i (Finding.mem_imports.1 hi)
        exact ⟨Text.mem_distinct.2 (Finding.mem_targets.2 hedge), hline⟩
      · obtain rfl := Option.some.inj hsame
        have htarget := Finding.mem_targets.1 (Text.mem_distinct.1 ht)
        obtain ⟨i, hi, heq⟩ := sourced_of_findings hfound hother target htarget
        exact ⟨i, Finding.mem_imports.2 hi, heq⟩

/-- An empty project. -/
def emptyProject : Extractor where
  workspace :=
    { tree := .directory [("p".toList, .directory [])]
      cwd := "/p".toList }
  root := "/p".toList

/-- Three names on two lines give three imports, each with its edge. -/
theorem imports_match_edges_of_twoLines :
    ∃ facts,
      emptyProject.extract "/p/a.py".toList "from . import b, c\nimport os".toList =
        .ok facts ∧
      facts.imports.map (·.line) = [1, 1, 2] ∧
      (∀ i ∈ facts.imports, i.target ∈ facts.edges ∧ 1 ≤ i.line ∧ i.line ≤ 2) ∧
      ∀ target ∈ facts.edges, ∃ i ∈ facts.imports, i.target = target := by
  obtain ⟨facts, hfacts, hlines⟩ : ∃ facts,
      emptyProject.extract "/p/a.py".toList "from . import b, c\nimport os".toList =
        .ok facts ∧
        facts.imports.map (·.line) = [1, 1, 2] := ⟨_, rfl, by decide⟩
  obtain ⟨hbacked, hsourced⟩ := imports_match_edges hfacts
  exact ⟨facts, hfacts, hlines, hbacked, hsourced .python (by decide) (by decide)⟩

end ImpactGraph
