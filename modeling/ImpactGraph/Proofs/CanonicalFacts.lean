import ImpactGraph.Build
import ImpactGraph.Proofs.CanonicalTargets
import ImpactGraph.Proofs.Listing

/-!
# The facts of a file are canonical, whoever finds them

Facts start out empty under the id of their file and grow by one finding after
another. A step keeps what `FileFacts.Canonical` says, as long as the finding
itself is canonical; so the question is only where findings come from. The
rules were covered language by language, and the answers of an indexer are
normalised one by one before they become findings. Calls are put in at the
end and change nothing that is asked here.
-/

namespace ImpactGraph

open ImpactGraph.Path

/-- Facts that name every file by its id, and list no export and no edge twice. -/
structure FileFacts.Canonical (facts : FileFacts) : Prop where
  file : IsId facts.file
  edges : ∀ target ∈ facts.edges, IsId target
  imports : ∀ i ∈ facts.imports, IsId i.target
  nodup_exports : facts.exports.Nodup
  nodup_edges : facts.edges.Nodup

namespace FileFacts

variable {facts : FileFacts} {file : Text} {language : Option Language}

theorem Canonical.empty (h : IsId file) :
    Canonical { file := file, language := language } where
  file := h
  edges _ hmem := absurd hmem List.not_mem_nil
  imports _ hmem := absurd hmem List.not_mem_nil
  nodup_exports := List.nodup_nil
  nodup_edges := List.nodup_nil

theorem Canonical.withCalls (h : facts.Canonical) (calls : List Call) :
    Canonical { facts with calls := calls } :=
  ⟨h.file, h.edges, h.imports, h.nodup_exports, h.nodup_edges⟩

theorem Canonical.addEdge {target : Text} (h : facts.Canonical) (ht : IsId target) :
    (facts.addEdge target).Canonical := by
  unfold FileFacts.addEdge
  split
  · exact h
  · next hnew =>
      have hnodup := Text.nodup_addNew h.nodup_edges target
      rw [Text.addNew_of_notMem hnew] at hnodup
      refine ⟨h.file, fun t hmem => ?_, h.imports, h.nodup_exports, hnodup⟩
      rcases List.mem_append.1 hmem with hmem | hmem
      · exact h.edges t hmem
      · rw [List.mem_singleton.1 hmem]
        exact ht

theorem Canonical.addExport (h : facts.Canonical) (name : Text) :
    (facts.addExport name).Canonical := by
  unfold FileFacts.addExport
  split
  · exact h
  · next hnew =>
      rw [Bool.or_eq_true, not_or, decide_eq_true_eq, decide_eq_true_eq] at hnew
      have hnodup := Text.nodup_addNew h.nodup_exports name
      rw [Text.addNew_of_notMem hnew.2] at hnodup
      exact ⟨h.file, h.edges, h.imports, hnodup, h.nodup_edges⟩

/-- One finding more. -/
theorem Canonical.record {finding : Finding} (h : facts.Canonical)
    (hf : finding.Canonical) : (facts.record finding).Canonical := by
  cases finding with
  | imports i =>
      refine ⟨h.file, h.edges, fun j hmem => ?_, h.nodup_exports, h.nodup_edges⟩
      rcases List.mem_append.1 hmem with hmem | hmem
      · exact h.imports j hmem
      · rw [List.mem_singleton.1 hmem]
        exact hf
  | dependsOn target => exact h.addEdge hf
  | exports name => exact h.addExport name

theorem Canonical.foldl_record {found : List Finding} (h : facts.Canonical)
    (hf : ∀ f ∈ found, f.Canonical) : (found.foldl FileFacts.record facts).Canonical := by
  induction found generalizing facts with
  | nil => exact h
  | cons f found ih =>
      exact ih (h.record (hf f List.mem_cons_self)) fun f' hmem =>
        hf f' (List.mem_cons_of_mem _ hmem)

theorem record_file (facts : FileFacts) (finding : Finding) :
    (facts.record finding).file = facts.file := by
  cases finding with
  | imports i => rfl
  | dependsOn target =>
      simp only [record, FileFacts.addEdge]
      split <;> rfl
  | exports name =>
      simp only [record, FileFacts.addExport]
      split <;> rfl

theorem foldl_record_file (found : List Finding) (facts : FileFacts) :
    (found.foldl record facts).file = facts.file := by
  induction found generalizing facts with
  | nil => rfl
  | cons f found ih => rw [List.foldl_cons, ih, record_file]

end FileFacts

/-! ## Rules and indexer -/

/-- Canonical facts about a given file. -/
def FileFacts.Describes (facts : FileFacts) (file : Text) : Prop :=
  facts.file = file ∧ facts.Canonical

theorem FileFacts.Describes.withCalls {facts : FileFacts} {file : Text}
    (h : facts.Describes file) (calls : List Call) :
    FileFacts.Describes { facts with calls := calls } file :=
  ⟨h.1, h.2.withCalls calls⟩

theorem FileFacts.describes_foldl_record {file : Text} {language : Option Language}
    {found : List Finding} (hfile : IsId file) (hf : ∀ f ∈ found, f.Canonical) :
    (found.foldl FileFacts.record { file := file, language := language }).Describes
      file :=
  ⟨foldl_record_file found _, (Canonical.empty hfile).foldl_record hf⟩

theorem Extractor.describes_of_extract {e : Extractor} {file content : Text}
    {facts : FileFacts} (hfile : IsId file) (h : e.extract file content = .ok facts) :
    facts.Describes file := by
  unfold extract at h
  split at h
  · rw [← Except.ok.inj h]
    exact ⟨rfl, .empty hfile⟩
  · next language _ =>
      obtain ⟨found, hfound, rfl⟩ := ok_of_map_eq_ok h
      have hd : (FileFacts.ofFindings file language found).Describes file :=
        FileFacts.describes_foldl_record hfile (canonical_of_mem_findings hfile hfound)
      simp only []
      split
      · exact hd.withCalls _
      · exact hd

theorem Delegation.describes_factsOf (w : Workspace) (root : Text) {file : Text}
    (hfile : IsId file) (symbols : List Indexer.Symbol) (deps : List Indexer.Dependency) :
    (factsOf w root file symbols deps).Describes file := by
  refine FileFacts.describes_foldl_record hfile fun f hf => ?_
  rcases List.mem_append.1 hf with hf | hf
  · exact Rules.canonical_of_mem_exports hf
  · obtain ⟨d, -, hf⟩ := List.mem_flatMap.1 hf
    exact Rules.canonical_of_mem_pair hf (isId_canonical _ _ _) (isId_canonical _ _ _)

/-! ## Outcomes -/

/-- An outcome that holds canonical facts about its own file. -/
structure Outcome.Reports (o : Outcome) (file : Text) : Prop where
  path : o.path = file
  facts : ∃ facts, o.facts = some facts ∧ facts.Describes file

theorem Builder.reports_of_extractByRules {b : Builder}
    {file content : Text} {o : Outcome} (hfile : IsId file)
    (h : b.extractByRules file content = .ok o) : o.Reports file := by
  obtain ⟨facts, hfacts, rfl⟩ := ok_of_map_eq_ok h
  exact ⟨rfl, facts, rfl, Extractor.describes_of_extract hfile hfacts⟩

namespace Delegation

open Indexer

variable {w : Workspace} {root file content : Text} {rules : Extractor}

theorem describes_of_told (hfile : IsId file) {behaviour : Behaviour} {facts : FileFacts}
    (h : told w root file behaviour = .ok facts) : facts.Describes file := by
  cases behaviour with
  | answers symbols deps =>
      rw [← Except.ok.inj h]
      exact describes_factsOf _ _ hfile _ _
  | unavailable => exact absurd h (by simp [told])
  | probeFails message => exact absurd h (by simp [told])
  | symbolsFail message => exact absurd h (by simp [told])
  | dependenciesFail message => exact absurd h (by simp [told])

theorem reports_conclude {asked : Except Text FileFacts} {found : FileFacts}
    (hasked : ∀ facts, asked = .ok facts → facts.Describes file)
    (hfound : found.Describes file) : (conclude file asked found).Reports file := by
  cases asked with
  | ok facts => exact ⟨rfl, _, rfl, (hasked facts rfl).withCalls _⟩
  | error reason => exact ⟨rfl, found, rfl, hfound⟩

theorem reports_of_outcome (hfile : IsId file) {behaviour : Behaviour} {o : Outcome}
    (h : outcome rules file content behaviour = .ok o) : o.Reports file := by
  obtain ⟨found, hfound, rfl⟩ := ok_of_map_eq_ok h
  exact reports_conclude (fun _ => describes_of_told hfile)
    (Extractor.describes_of_extract hfile hfound)

end Delegation

end ImpactGraph
