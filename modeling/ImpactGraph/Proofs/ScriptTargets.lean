import ImpactGraph.Proofs.Fallback
import ImpactGraph.Proofs.ImportEdges
import ImpactGraph.Proofs.NormalLookup

/-!
# Where relative imports of scripts lead

A specifier that starts with a dot is probed: fourteen texts are put together, and the
first that leads to a file becomes the target. The probe looks at the file system alone
and the graph compares texts alone, so an edge arrives at a node only because each of the
fourteen texts is an id already. That is the whole of the argument. The base is normalised
before an ending is put on it, an ending cannot undo that, and a build files what it reads
under ids.

The probing is described by its outcome, `Workspace.Chooses`, which says what the rejected
candidates were. An import that an indexer reported has no specifier, so every import with
one was found by the rules, and by `Site.Finds` its target was probed for the specifier
that is recorded with it.
-/

namespace ImpactGraph

open ImpactGraph.Path

section Choice

variable {w : Workspace} {candidates : List Text} {fallback chosen : Text}

/-- The outcome of a probe: the first candidate that is a file, or the fallback when none
is. -/
inductive Workspace.Chooses (w : Workspace) (candidates : List Text)
    (fallback : Text) : Text → Prop
  | first {before after : List Text} {candidate : Text} :
    candidates = before ++ candidate :: after → (∀ c ∈ before, w.isFile c = false) →
    w.isFile candidate = true → w.Chooses candidates fallback candidate
  | fallback : (∀ c ∈ candidates, w.isFile c = false) →
      w.Chooses candidates fallback fallback

theorem Workspace.chooses_find?_getD (w : Workspace) (candidates : List Text)
    (fallback : Text) :
    w.Chooses candidates fallback ((candidates.find? w.isFile).getD fallback) := by
  cases hfind : candidates.find? w.isFile with
  | none => exact .fallback fun c hc => by simpa using List.find?_eq_none.1 hfind c hc
  | some candidate =>
      obtain ⟨hfile, before, after, hsplit, hbefore⟩ :=
        List.find?_eq_some_iff_append.1 hfind
      exact .first hsplit (fun c hc => by simpa using hbefore c hc) hfile

theorem Workspace.Chooses.isFile_eq_false (h : w.Chooses candidates fallback chosen)
    (hchosen : w.isFile chosen = false) : ∀ c ∈ candidates, w.isFile c = false := by
  cases h with
  | first _ _ hfile => exact absurd hfile (by simp [hchosen])
  | fallback hnone => exact hnone

end Choice

/-! ## Targets of findings -/

section Findings

variable {w : Workspace} {root file content : Text} {i : Import}

theorem Rules.JavaScript.Site.Finds.imports {site : Site} (h : site.Finds (.imports i)) :
    i.target = site.target ∧ i.source = site.source := by
  cases h with
  | bring symbol kind renamed => exact ⟨rfl, rfl⟩

/-- An import names the target of the specifier that is recorded with it. -/
theorem Rules.JavaScript.target_of_mem_findings
    (h : Finding.imports i ∈ findings w root file content) :
    i.target = Resolve.javascript w root file i.source := by
  have hsite {source : Text} {line : Nat}
      (hf :
        Site.Finds ⟨source, Resolve.javascript w root file source, line⟩ (.imports i)) :
      i.target = Resolve.javascript w root file i.source := by
    rw [hf.imports.1, hf.imports.2]
  simp only [findings, List.mem_append, List.mem_flatMap] at h
  rcases h with (((((⟨m, -, hf⟩ | hf) | ⟨m, -, hf⟩) | ⟨m, -, hf⟩) | hf) | ⟨m, -, hf⟩) |
    ⟨m, -, hf⟩
  · exact hsite (finds_of_mem_importFindings hf)
  · obtain ⟨m, -, he⟩ := List.mem_map.1 hf
    cases he
  · exact hsite (finds_of_mem_requireFindings hf)
  · exact hsite (finds_of_mem_reexportFindings hf)
  · exact absurd hf (notMem_exports (by simp))
  · exact absurd hf (notMem_exports (by simp))
  · split at hf
    · exact absurd hf List.not_mem_nil
    · cases List.mem_singleton.1 hf

end Findings

/-! ## Targets in a node -/

section Node

variable {b : Builder} {behaviour : Option Indexer.Behaviour} {file : Text}
  {facts : FileFacts} {i : Import}

theorem Extractor.language_of_extract {e : Extractor} {content : Text}
    (h : e.extract file content = .ok facts) :
    facts.language = Language.ofPath? file := by
  unfold extract at h
  split at h
  · next hnone => rw [← Except.ok.inj h, hnone]
  · next language hsome =>
      obtain ⟨found, -, hfacts⟩ := ok_of_map_eq_ok h
      have heq := FileFacts.ofFindings_eq file language found
      simp only [] at hfacts
      split at hfacts <;> rw [← hfacts, heq, hsome]

theorem Builder.extract_of_found? (h : b.found? file = some facts) :
    ∃ content, b.extractor.extract file content = .ok facts := by
  obtain ⟨content, -, hfacts⟩ := Option.bind_eq_some_iff.1 h
  cases hx : b.extractor.extract file content with
  | error u =>
      rw [hx] at hfacts
      cases hfacts
  | ok found =>
      rw [hx] at hfacts
      exact ⟨content, by rw [hx, Option.some.inj hfacts]⟩

/-- What is filed about a file comes from its text, but for the lists of an indexer that
answered; those have no import with a specifier. -/
theorem Builder.nodeGiven_cases (h : b.nodeGiven behaviour file = some facts) :
    (∃ content, b.extractor.extract file content = .ok facts) ∨ ∀ i ∈ facts.imports,
      i.source = [] := by
  cases behaviour with
  | none => exact .inl (extract_of_found? (b.nodeGiven_none file ▸ h))
  | some does =>
      cases hanswer : does.isAnswer with
      | false =>
          rw [nodeGiven_of_not_isAnswer hanswer, nodeGiven_none] at h
          exact .inl (extract_of_found? h)
      | true =>
          cases does with
          | answers symbols deps =>
              rw [nodeGiven_answers, Delegation.factsOf_eq] at h
              obtain ⟨found, -, rfl⟩ := Option.map_eq_some_iff.1 h
              refine .inr fun i hi => ?_
              obtain ⟨d, -, rfl⟩ := List.mem_map.1 hi
              rfl
          | unavailable => cases hanswer
          | probeFails message => cases hanswer
          | symbolsFail message => cases hanswer
          | dependenciesFail message => cases hanswer

/-- Whether a file is filed as a script. -/
def FileFacts.IsScript (facts : FileFacts) : Prop :=
  facts.language = some .typescript ∨ facts.language = some .javascript

theorem Extractor.script_import {e : Extractor} {content : Text}
    (h : e.extract file content = .ok facts) (hscript : facts.IsScript)
    (hi : i ∈ facts.imports) :
    i.target = Resolve.javascript e.workspace e.root file i.source ∧
      i.target ∈ facts.edges := by
  have hlanguage := language_of_extract h
  obtain ⟨language, hlang, hfindings⟩ : ∃ language,
      Language.ofPath? file = some language ∧
        ∀ w root content, findings w root file content language =
          .ok (Rules.JavaScript.findings w root file content) := by
    rcases hscript with hs | hs
    · exact ⟨_, hlanguage.symm.trans hs, fun _ _ _ => rfl⟩
    · exact ⟨_, hlanguage.symm.trans hs, fun _ _ _ => rfl⟩
  obtain ⟨found, hfound, himports, hedges⟩ := e.lists_of_extract h hlang
  rw [himports] at hi
  have hmem := Finding.mem_imports.1 hi
  refine ⟨?_, ?_⟩
  · rw [hfindings] at hfound
    rw [← Except.ok.inj hfound] at hmem
    exact Rules.JavaScript.target_of_mem_findings hmem
  · rw [hedges, Text.mem_distinct, Finding.mem_targets]
    exact (backed_of_findings hfound i hmem).1

end Node

/-! ## Targets in a built graph -/

section Returned

variable {w : Workspace} {root : Text} {settings : AnalyzerSettings} {files : List Text}
  {r : BuildResult} {g : Graph} {node : FileFacts}

theorem Builder.Runs.script_import (h : (Builder.forRoot w root settings).Runs files r)
    (hg : r.graph = .ok g) (hnode : node ∈ g.nodes) (hscript : node.IsScript) {i : Import}
    (hi : i ∈ node.imports) (hsource : i.source ≠ []) :
    i.target = Resolve.javascript w (Builder.forRoot w root settings).extractor.root
      node.file i.source ∧
      i.target ∈ node.edges := by
  obtain ⟨behaviour, rfl⟩ := h.exists_given
  rw [Builder.nodes_buildGiven h hg] at hnode
  obtain ⟨file, hfile, hgiven⟩ := List.mem_filterMap.1 hnode
  rw [Builder.file_of_nodeGiven (Builder.isId_of_mem_selected hfile) hgiven]
  rcases Builder.nodeGiven_cases hgiven with ⟨content, hx⟩ | hnone
  · exact Extractor.script_import hx hscript hi
  · exact absurd (hnone i hi) hsource

/-- What a build processed is a node under its own id. -/
theorem Builder.Runs.exists_node_of_processed
    (h : (Builder.forRoot w root settings).Runs files r) (hg : r.graph = .ok g)
    {id : Text} (hid : id ∈ r.report.processed) : ∃ node ∈ g.nodes, node.file = id := by
  obtain ⟨behaviour, rfl⟩ := h.exists_given
  have hkey : id ∈ g.nodes.map (·.file) := by
    rw [Builder.files_buildGiven h hg, ← Builder.processed_buildGiven]
    exact hid
  exact List.mem_map.1 hkey

theorem Builder.Runs.has_of_processed (h : (Builder.forRoot w root settings).Runs files r)
    (hg : r.graph = .ok g) {id : Text} (hid : id ∈ r.report.processed) :
    g.has id = true := by
  obtain ⟨node, hnode, rfl⟩ := h.exists_node_of_processed hg hid
  have hfixed : g.canonical node.file = node.file := by
    rw [canonical_of_runs h hg]
    exact (h.canonical_of_mem_nodes hg hnode).file.canonical_eq _ _
  rw [Graph.has, hfixed, (Graph.node?_eq_some_iff (h.nodup_files hg)).2 ⟨hnode, rfl⟩]
  rfl

theorem Builder.Runs.mem_dependents (h : (Builder.forRoot w root settings).Runs files r)
    (hg : r.graph = .ok g) (hnode : node ∈ g.nodes) {target : Text}
    (ht : target ∈ node.edges) : node.file ∈ g.dependents target := by
  have hfixed : g.canonical target = target := by
    rw [canonical_of_runs h hg]
    exact ((h.canonical_of_mem_nodes hg hnode).edges target ht).canonical_eq _ _
  rw [Graph.dependents, hfixed, Graph.mem_dependentsOf]
  exact Graph.mem_edges.2 ⟨node, hnode, rfl, ht⟩

/-- A relative import of a script leads to the first of fourteen files that exists, and to
the base that they are made from when none does, so that it leads to no file only where
there is none of them. When that file was processed in the same build, it is found in the
graph and depended upon. -/
theorem relative_imports_probed (h : (Builder.forRoot w root settings).Runs files r)
    (hg : r.graph = .ok g) (hnode : node ∈ g.nodes) (hscript : node.IsScript) {i : Import}
    (hi : i ∈ node.imports) (hdot : i.source.head? = some '.') :
    let base := normal (join (parent node.file) i.source)
    let candidates :=
      [base ++ ".ts".toList, join base "index.ts".toList, base ++ ".tsx".toList,
        join base "index.tsx".toList, base ++ ".js".toList, join base "index.js".toList,
        base ++ ".jsx".toList, join base "index.jsx".toList, base ++ ".mjs".toList,
        join base "index.mjs".toList, base ++ ".cjs".toList, join base "index.cjs".toList,
        base, join base "index".toList]
    w.Chooses candidates base i.target ∧ i.target ∈ node.edges ∧
      (w.isFile i.target = false → ∀ c ∈ candidates, w.isFile c = false) ∧
      (i.target ∈ r.report.processed → g.has i.target = true ∧
        node.file ∈ g.dependents i.target) := by
  intro base candidates
  have hsource : i.source ≠ [] := by
    rintro he
    rw [he] at hdot
    cases hdot
  obtain ⟨htarget, hedge⟩ := h.script_import hg hnode hscript hi hsource
  -- The importing file is an id, so the root has no say in the base.
  have hparent : IsId (parent node.file) :=
    (h.canonical_of_mem_nodes hg hnode).file.parent
  have hbase (place : Text) :
      w.canonical place (join (parent node.file) i.source) = base := by
    have habs := @isAbsolute_join _ i.source hparent.isAbsolute
    rw [Workspace.canonical, Path.canonical, if_pos habs]
  have hcandidates : Resolve.scriptCandidates base = candidates := by
    simp [Resolve.scriptCandidates, Resolve.scriptSuffixes, candidates]
  have hchosen : w.Chooses candidates base i.target := by
    have hprobe := w.chooses_find?_getD (Resolve.scriptCandidates base) base
    rwa [htarget, Resolve.javascript, if_pos hdot, hbase, ← hcandidates]
  exact ⟨hchosen, hedge, hchosen.isFile_eq_false,
    fun hprocessed => ⟨h.has_of_processed hg hprocessed, h.mem_dependents hg hnode hedge⟩⟩

/-- A script that imports a directory with an index file, past a directory that is named
like the preferred candidate. -/
def indexProject : Workspace where
  cwd := "/p".toList
  tree := .directory [("p".toList, .directory
    [("app".toList,
      .directory [("a.ts".toList, .file "import {x} from '.././lib/u'".toUTF8.toList)]),
      ("lib".toList, .directory
        [("u.ts".toList, .directory []),
          ("u".toList, .directory [("index.ts".toList, .file [])])])])]

theorem relative_imports_probed_of_index :
    ∃ r g, (Builder.forRoot indexProject ['.'] {}).Runs ["app/a.ts".toList,
      "lib/u/index.ts".toList] r ∧
      r.graph = .ok g ∧ ∃ node ∈ g.nodes, node.IsScript ∧ ∃ i ∈ node.imports,
        i.source.head? = some '.' ∧ i.target = "/p/lib/u/index.ts".toList ∧
        i.target ∈ r.report.processed ∧ g.has i.target = true ∧
          node.file ∈ g.dependents i.target := by
  obtain ⟨g, hg, himports⟩ : ∃ g, ((Builder.forRoot indexProject ['.'] {}).build
      ["app/a.ts".toList, "lib/u/index.ts".toList]).graph = .ok g ∧
        ((g.nodes.filter (·.language = some .typescript)).flatMap (·.imports)).map
          (fun i => (i.source, i.target)) =
            [(".././lib/u".toList, "/p/lib/u/index.ts".toList)] := by
    refine ok_of_map_eq_ok (g := fun g : Graph =>
      ((g.nodes.filter (·.language = some .typescript)).flatMap (·.imports)).map _) ?_
    decide +kernel
  obtain ⟨i, hi, hpair⟩ := List.mem_map.1 (himports ▸ List.mem_cons_self)
  obtain ⟨hsource, htarget⟩ := Prod.mk.inj hpair
  obtain ⟨node, hnode, hi⟩ := List.mem_flatMap.1 hi
  obtain ⟨hnode, hscript⟩ := List.mem_filter.1 hnode
  have hscript : node.IsScript := .inl (of_decide_eq_true hscript)
  have hdot : i.source.head? = some '.' := by rw [hsource]; rfl
  have hprocessed : i.target ∈ ((Builder.forRoot indexProject ['.'] {}).build
      ["app/a.ts".toList, "lib/u/index.ts".toList]).report.processed := by
    rw [htarget]
    decide +kernel
  obtain ⟨-, -, -, hmet⟩ := relative_imports_probed .alone hg hnode hscript hi hdot
  exact ⟨_, g, .alone, hg, node, hnode, hscript, i, hi, hdot, htarget, hprocessed,
    hmet hprocessed⟩

end Returned

end ImpactGraph
