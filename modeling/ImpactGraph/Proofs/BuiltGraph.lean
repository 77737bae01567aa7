import ImpactGraph.Proofs.BuildRuns
import ImpactGraph.Proofs.CanonicalFacts
import ImpactGraph.Proofs.TransposedEdges

/-!
# What a build returns

A build examines the ids of its list, each once, and then puts the facts
together in the order of the list. Two things about the list carry everything:
its entries are ids, so whatever is found in them is canonical, and no entry
comes twice, so facts are only ever added at the end and never replace others.

With or without an indexer the examined files are the same, and what is known
about one examined file is the same. So all runs of a builder are treated
alike, and a run is opened once, by `Runs.exists_examined`.
-/

namespace ImpactGraph

open ImpactGraph.Path

/-- The end of an examination that tells of its own file what is canonical, if it tells
anything. -/
def Examined.Reports (e : Examined) (file : Text) : Prop :=
  ∀ o, e.outcome? = some o → o.Reports file

namespace Builder

variable {b : Builder} {files : List Text}

/-! ## The files of a build -/

theorem isId_of_mem_ids {file : Text} (h : file ∈ b.ids files) : IsId file := by
  rw [ids, Text.mem_distinct] at h
  obtain ⟨path, -, rfl⟩ := List.mem_map.1 h
  exact isId_canonical _ _ _

theorem isId_of_mem_selected {file : Text} (h : file ∈ b.selected files) : IsId file :=
  isId_of_mem_ids (List.mem_filter.1 h).1

theorem ids_forRoot (w : Workspace) (root : Text) (settings : AnalyzerSettings)
    (files : List Text) :
    (forRoot w root settings).ids files = Text.distinct (files.map (w.canonical root)) :=
  congrArg Text.distinct (List.map_congr_left fun path _ =>
    canonical_canonical_dot _ _ path)

/-! ## Examinations -/

theorem reports_examinedOf {file : Text} {x : Except ExtractionError Outcome}
    (h : ∀ o, x = .ok o → o.Reports file) : (examinedOf x).Reports file := by
  intro o ho
  cases x with
  | error e => exact absurd ho (by simp [examinedOf, Examined.outcome?])
  | ok outcome => exact h o (congrArg _ (Option.some.inj ho))

theorem reports_of_outcomeGiven {behaviour : Option Indexer.Behaviour}
    {file content : Text} {o : Outcome} (hfile : IsId file)
    (h : b.outcomeGiven behaviour file content = .ok o) : o.Reports file := by
  cases behaviour with
  | none => exact reports_of_extractByRules hfile h
  | some behaviour => exact Delegation.reports_of_outcome hfile h

theorem reports_examinedGiven (behaviour : Option Indexer.Behaviour) {file : Text}
    (hfile : IsId file) : (b.examinedGiven behaviour file).Reports file := by
  unfold examinedGiven examineWith
  split
  · exact fun o ho => absurd ho nofun
  · exact fun o ho => absurd ho nofun
  · exact reports_examinedOf fun o => reports_of_outcomeGiven hfile

/-- A run puts together one report for each file that is read, in their order. -/
theorem Runs.exists_examined {r : BuildResult} (h : b.Runs files r) :
    ∃ excluded examined, r = assemble b.root excluded examined ∧
      examined.map (·.1) = b.selected files ∧ ∀ e ∈ examined, e.2.Reports e.1 := by
  obtain ⟨behaviour, rfl⟩ := h.exists_given
  refine ⟨_, _, rfl, ?_, fun e he => ?_⟩
  · rw [List.map_map]
    exact List.map_id _
  · obtain ⟨file, hmem, rfl⟩ := List.mem_map.1 he
    exact reports_examinedGiven _ (isId_of_mem_selected hmem)

end Builder

/-! ## Facts put together -/

namespace Graph

section Lookup

variable {g : Graph} {f : Text}

theorem file_of_node? {node : FileFacts} (h : g.node? f = some node) : node.file = f := by
  have hp := List.find?_some h
  exact of_decide_eq_true hp

theorem node?_eq_some_iff (hkeys : (g.nodes.map (·.file)).Nodup) {node : FileFacts} :
    g.node? f = some node ↔ node ∈ g.nodes ∧ node.file = f := by
  constructor
  · intro h
    exact ⟨List.mem_of_find?_eq_some h, file_of_node? h⟩
  · rintro ⟨hnode, rfl⟩
    have hsome : (g.node? node.file).isSome :=
      List.find?_isSome.2 ⟨node, hnode, decide_eq_true rfl⟩
    obtain ⟨found, hfound⟩ := Option.isSome_iff_exists.1 hsome
    rw [hfound, List.inj_on_of_nodup_map hkeys (List.mem_of_find?_eq_some hfound) hnode
      (file_of_node? hfound)]

theorem mem_nodes_iff (hkeys : (g.nodes.map (·.file)).Nodup) {node : FileFacts} :
    node ∈ g.nodes ↔ g.node? node.file = some node := by
  rw [node?_eq_some_iff hkeys]
  exact (and_iff_left rfl).symm

end Lookup

theorem insert_nodes {g : Graph} {facts : FileFacts}
    (h : facts.file ∉ g.nodes.map (·.file)) :
    (g.insert facts).nodes = g.nodes ++ [facts] := by
  refine if_neg fun hany => h ?_
  obtain ⟨node, hnode, hfile⟩ := List.any_eq_true.1 hany
  exact List.mem_map.2 ⟨node, hnode, of_decide_eq_true hfile⟩

/-- Facts of files that are all new are added in their order. -/
theorem foldl_insert_nodes {facts : List FileFacts} {g : Graph}
    (h : ((g.nodes ++ facts).map (·.file)).Nodup) :
    (facts.foldl insert g).nodes = g.nodes ++ facts := by
  induction facts generalizing g with
  | nil => exact (List.append_nil _).symm
  | cons f facts ih =>
      have hnew : (g.insert f).nodes = g.nodes ++ [f] := by
        refine insert_nodes fun hmem => ?_
        rw [List.map_append, List.nodup_append] at h
        exact h.2.2 _ hmem _ (List.mem_map_of_mem List.mem_cons_self) rfl
      rw [List.foldl_cons, ih, hnew, List.append_assoc, List.singleton_append]
      rwa [hnew, List.append_assoc, List.singleton_append]

theorem mem_insert_nodes {g : Graph} {facts node : FileFacts}
    (h : node ∈ (g.insert facts).nodes) : node ∈ g.nodes ∨ node = facts := by
  simp only [insert] at h
  split at h
  · obtain ⟨old, hold, rfl⟩ := List.mem_map.1 h
    split
    · exact Or.inr rfl
    · exact Or.inl hold
  · rwa [List.mem_append, List.mem_singleton] at h

theorem mem_foldl_insert_nodes {facts : List FileFacts} {g : Graph} {node : FileFacts}
    (h : node ∈ (facts.foldl insert g).nodes) : node ∈ g.nodes ∨ node ∈ facts := by
  induction facts generalizing g with
  | nil => exact Or.inl h
  | cons f facts ih =>
      rcases ih h with h | h
      · exact (mem_insert_nodes h).imp_right fun he => List.mem_cons.2 (.inl he)
      · exact Or.inr (List.mem_cons_of_mem _ h)

theorem foldl_insert_root (facts : List FileFacts) (g : Graph) :
    (facts.foldl insert g).root = g.root := by
  induction facts generalizing g with
  | nil => rfl
  | cons f facts ih => exact ih (g.insert f)

end Graph

namespace Builder

variable {root : Text} {excluded files : List Text} {examined : List (Text × Examined)}

theorem outcomes_of_assemble_eq_ok {g : Graph}
    (h : (assemble root excluded examined).graph = .ok g) :
    (assemble root excluded examined).outcomes = examined.filterMap (·.2.outcome?) ∧
      g = ((examined.filterMap (·.2.outcome?)).filterMap (·.facts)).foldl Graph.insert
        { root := root } := by
  simp only [assemble] at h ⊢
  split at h
  · exact absurd h (by simp)
  · next hnone =>
      rw [hnone]
      exact ⟨rfl, (Except.ok.inj h).symm⟩

theorem reports_of_mem_outcomes (hreports : ∀ e ∈ examined, e.2.Reports e.1) {o : Outcome}
    (h : o ∈ examined.filterMap (·.2.outcome?)) : o.Reports o.path := by
  obtain ⟨e, hmem, ho⟩ := List.mem_filterMap.1 h
  have hr := hreports e hmem o ho
  rw [hr.path]
  exact hr

theorem paths_eq (hreports : ∀ e ∈ examined, e.2.Reports e.1) :
    (examined.filterMap (·.2.outcome?)).map (·.path) =
      (examined.filter (·.2.outcome?.isSome)).map (·.1) := by
  induction examined with
  | nil => rfl
  | cons e examined ih =>
      have ih := ih fun e' hmem => hreports e' (List.mem_cons_of_mem _ hmem)
      rw [List.filterMap_cons, List.filter_cons]
      cases ho : e.2.outcome? with
      | none => exact ih
      | some o => exact congrArg₂ List.cons (hreports e List.mem_cons_self o ho).path ih

/-- Where every outcome reports its own file, the facts are filed under the paths of the
outcomes. -/
theorem map_outcomes {outcomes : List Outcome} (h : ∀ o ∈ outcomes, o.Reports o.path) :
    outcomes.map (fun o => (o.path, o.facts)) =
      (outcomes.filterMap (·.facts)).map fun node => (node.file, some node) := by
  induction outcomes with
  | nil => rfl
  | cons o outcomes ih =>
      obtain ⟨facts, hfacts, hfile, -⟩ := (h o List.mem_cons_self).facts
      rw [List.map_cons, List.filterMap_cons_some hfacts, List.map_cons, hfacts, hfile,
        ih fun o' hmem => h o' (List.mem_cons_of_mem _ hmem)]

theorem map_file_facts {outcomes : List Outcome} (h : ∀ o ∈ outcomes, o.Reports o.path) :
    (outcomes.filterMap (·.facts)).map (·.file) = outcomes.map (·.path) := by
  have hfst := congrArg (List.map Prod.fst) (map_outcomes h)
  rw [List.map_map, List.map_map] at hfst
  exact hfst.symm

variable {b : Builder} {r : BuildResult} {g : Graph}

theorem Runs.outcomes_report (h : b.Runs files r) (hg : r.graph = .ok g) :
    (∀ o ∈ r.outcomes, o.Reports o.path) ∧
      (r.outcomes.map (·.path)).Sublist (b.selected files) := by
  obtain ⟨excluded, examined, rfl, hfiles, hreports⟩ := h.exists_examined
  rw [(outcomes_of_assemble_eq_ok hg).1, ← hfiles, paths_eq hreports]
  exact ⟨fun o => reports_of_mem_outcomes hreports, List.filter_sublist.map _⟩

theorem Runs.nodup_paths (h : b.Runs files r) (hg : r.graph = .ok g) :
    (r.outcomes.map (·.path)).Nodup :=
  (h.outcomes_report hg).2.nodup (nodup_selected b files)

theorem Runs.graph_eq (h : b.Runs files r) (hg : r.graph = .ok g) :
    g = (r.outcomes.filterMap (·.facts)).foldl Graph.insert { root := b.root } := by
  obtain ⟨excluded, examined, rfl, -, -⟩ := h.exists_examined
  rw [(outcomes_of_assemble_eq_ok hg).1]
  exact (outcomes_of_assemble_eq_ok hg).2

theorem Runs.root_eq (h : b.Runs files r) (hg : r.graph = .ok g) : g.root = b.root := by
  rw [h.graph_eq hg, Graph.foldl_insert_root]

theorem Runs.nodes_eq (h : b.Runs files r) (hg : r.graph = .ok g) :
    g.nodes = r.outcomes.filterMap (·.facts) := by
  have hnodup := h.nodup_paths hg
  rw [← map_file_facts (h.outcomes_report hg).1] at hnodup
  rw [h.graph_eq hg, Graph.foldl_insert_nodes hnodup]
  exact List.nil_append _

theorem Runs.nodup_files (h : b.Runs files r) (hg : r.graph = .ok g) :
    (g.nodes.map (·.file)).Nodup := by
  rw [h.nodes_eq hg, map_file_facts (h.outcomes_report hg).1]
  exact h.nodup_paths hg

theorem Runs.canonical_of_mem_nodes (h : b.Runs files r) (hg : r.graph = .ok g)
    {node : FileFacts} (hnode : node ∈ g.nodes) : node.Canonical := by
  rw [h.nodes_eq hg] at hnode
  obtain ⟨o, ho, hfacts⟩ := List.mem_filterMap.1 hnode
  obtain ⟨facts, he, -, hcanonical⟩ := ((h.outcomes_report hg).1 o ho).facts
  rw [Option.some.inj (hfacts.symm.trans he)]
  exact hcanonical

/-! ## Facts looked up -/

/-- What is filed about a file that is read, given what the indexer did, if one was
asked. -/
def nodeGiven (b : Builder) (behaviour : Option Indexer.Behaviour) (file : Text) :
    Option FileFacts :=
  (b.examinedGiven behaviour file).outcome?.bind (·.facts)

theorem file_of_nodeGiven {behaviour : Option Indexer.Behaviour} {file : Text}
    {facts : FileFacts} (hfile : IsId file)
    (h : b.nodeGiven behaviour file = some facts) : facts.file = file := by
  obtain ⟨o, ho, hfacts⟩ := Option.bind_eq_some_iff.1 h
  obtain ⟨found, hfound, hd⟩ := (reports_examinedGiven behaviour hfile o ho).facts
  rw [Option.some.inj (hfacts.symm.trans hfound)]
  exact hd.1

section Given

variable {behaviour : Text → Option Indexer.Behaviour}

theorem nodes_buildGiven (h : b.Runs files (b.buildGiven behaviour files))
    (hg : (b.buildGiven behaviour files).graph = .ok g) :
    g.nodes = (b.selected files).filterMap fun file =>
      b.nodeGiven (behaviour file) file := by
  have houtcomes := (outcomes_of_assemble_eq_ok hg).1
  rw [h.nodes_eq hg, buildGiven, houtcomes, List.filterMap_filterMap, List.filterMap_map]
  rfl

/-- What a build knows about a file is settled by the file and what the indexer did, once
the file is one of those that are read. -/
theorem node?_buildGiven (h : b.Runs files (b.buildGiven behaviour files))
    (hg : (b.buildGiven behaviour files).graph = .ok g) (file : Text) :
    g.node? file = if file ∈ b.selected files then b.nodeGiven (behaviour file) file
      else none := by
  ext node
  rw [Graph.node?_eq_some_iff (h.nodup_files hg), nodes_buildGiven h hg,
    List.mem_filterMap]
  split
  · next hmem =>
      constructor
      · rintro ⟨⟨f, hf, hnode⟩, rfl⟩
        rwa [file_of_nodeGiven (isId_of_mem_selected hf) hnode]
      · intro hnode
        exact ⟨⟨file, hmem, hnode⟩, file_of_nodeGiven (isId_of_mem_selected hmem) hnode⟩
  · next hnot =>
      refine iff_of_false ?_ (by simp)
      rintro ⟨⟨f, hf, hnode⟩, rfl⟩
      exact hnot (file_of_nodeGiven (isId_of_mem_selected hf) hnode ▸ hf)

end Given

theorem node?_build (hg : (b.build files).graph = .ok g) (file : Text) :
    g.node? file = if file ∈ b.selected files then b.nodeGiven none file else none := by
  have halone : b.Runs files (b.buildGiven (fun _ => none) files) := .alone
  exact node?_buildGiven halone hg file

end Builder

/-! ## Ids and counts

What a reader of a built graph may rely on, whoever found the facts. -/

/-- A project of two files: one imports itself and the other, and is imported back. -/
def twoFiles : Workspace where
  cwd := "/p".toList
  tree := .directory [("p".toList, .directory
    [("a.py".toList, .file "import b\nimport a".toUTF8.toList),
      ("b.py".toList, .file "from a import f".toUTF8.toList)])]

theorem twoFiles_builds :
    ∃ g,
      ((Builder.forRoot twoFiles ['.'] {}).build ["b.py".toList, "./a.py".toList]).graph =
        .ok g ∧
      g.edges =
        [("/p/b.py".toList, "/p/a.py".toList), ("/p/a.py".toList, "/p/b.py".toList),
        ("/p/a.py".toList, "/p/a.py".toList)] := by
  refine ok_of_map_eq_ok (g := Graph.edges) ?_
  decide +kernel

section Returned

variable {w : Workspace} {root : Text} {settings : AnalyzerSettings} {files : List Text}
  {r : BuildResult} {g : Graph}

/-- Every id of a built graph stays as it is under every normalisation, facts are filed
under the file that they are about, and no file has an export or an edge twice. -/
theorem ids_fixed_of_runs (h : (Builder.forRoot w root settings).Runs files r)
    (hg : r.graph = .ok g) :
    (∀ node ∈ g.nodes,
      (∀ cwd base, canonical cwd base node.file = node.file) ∧
      (∀ target ∈ node.edges, ∀ cwd base, canonical cwd base target = target) ∧
      (∀ i ∈ node.imports, ∀ cwd base, canonical cwd base i.target = i.target) ∧
      node.exports.Nodup ∧ node.edges.Nodup) ∧
    (∀ entry ∈ g.index,
      (∀ cwd base, canonical cwd base entry.1 = entry.1) ∧
      ∀ file ∈ entry.2, ∀ cwd base, canonical cwd base file = file) ∧
    r.outcomes.map (fun o => (o.path, o.facts)) =
      g.nodes.map (fun node => (node.file, some node)) ∧
    (g.nodes.map (·.file)).Nodup := by
  have hnodes : ∀ node ∈ g.nodes, node.Canonical := fun _ => h.canonical_of_mem_nodes hg
  refine ⟨fun node hnode => ?_, fun entry hentry => ?_, ?_, h.nodup_files hg⟩
  · have hc := hnodes node hnode
    exact ⟨hc.file.canonical_eq, fun t ht => (hc.edges t ht).canonical_eq,
      fun i hi => (hc.imports i hi).canonical_eq, hc.nodup_exports, hc.nodup_edges⟩
  · have hfiles := Graph.filesOf_of_mem_index hentry
    constructor
    · obtain ⟨f, he⟩ := Graph.mem_targets.1 (List.mem_map.2 ⟨entry, hentry, rfl⟩)
      obtain ⟨node, hnode, -, ht⟩ := Graph.mem_edges.1 he
      exact ((hnodes node hnode).edges _ ht).canonical_eq
    · intro file hfile
      rw [← hfiles] at hfile
      obtain ⟨node, hnode, rfl, -⟩ := Graph.mem_edges.1 (Graph.mem_filesOf_index.1 hfile)
      exact (hnodes node hnode).file.canonical_eq
  · rw [h.nodes_eq hg]
    exact Builder.map_outcomes (h.outcomes_report hg).1

theorem ids_fixed_of_twoFiles :
    ∃ r g, (Builder.forRoot twoFiles ['.'] {}).Runs ["b.py".toList, "./a.py".toList] r ∧
      r.graph = .ok g ∧ ("/p/b.py".toList, "/p/a.py".toList) ∈ g.edges ∧
      ∀ node ∈ g.nodes, ∀ cwd base, canonical cwd base node.file = node.file := by
  obtain ⟨g, hg, he⟩ := twoFiles_builds
  refine ⟨_, g, .alone, hg, by rw [he]; exact List.mem_cons_self, fun node hnode => ?_⟩
  exact ((ids_fixed_of_runs .alone hg).1 node hnode).1

/-- A file is named alike from the root of a build and from the graph that the build
returns. -/
theorem canonical_of_runs (h : (Builder.forRoot w root settings).Runs files r)
    (hg : r.graph = .ok g) (path : Text) : g.canonical path = w.canonical root path := by
  have hroot : g.root = absolute w.cwd root := (h.root_eq hg).trans (canonical_dot _ _)
  rw [Graph.canonical, hroot, Workspace.canonical, canonical_eq_normal_join]

/-- A lookup lists, in order and once each, the files with an edge to the id of what is
looked up; the keys of the reverse index are the targets of edges, and its sizes add up to
the number of edges. -/
theorem dependents_of_runs (h : (Builder.forRoot w root settings).Runs files r)
    (hg : r.graph = .ok g) :
    (∀ path,
      (g.dependents path).Pairwise (fun a b => Text.le a b = true) ∧
        (g.dependents path).Nodup ∧
      ∀ file, file ∈ g.dependents path ↔
        ∃ node ∈ g.nodes, node.file = file ∧ w.canonical root path ∈ node.edges) ∧
    (g.index.map (·.1)).Nodup ∧
    (∀ target, target ∈ g.index.map (·.1) ↔ ∃ node ∈ g.nodes, target ∈ node.edges) ∧
    (∀ entry ∈ g.index, entry.2 ≠ [] ∧ entry.2.Nodup) ∧
    (g.nodes.map (·.file)).Nodup ∧ g.fileCount = g.nodes.length ∧
    g.edgeCount = g.edges.length ∧ g.edgeCount = g.index.size := by
  have hedges : g.edges.Nodup :=
    Graph.nodup_edges (h.nodup_files hg) fun _ hnode =>
      (h.canonical_of_mem_nodes hg hnode).nodup_edges
  refine ⟨fun path =>
    ⟨Text.sort_pairwise _, Graph.nodup_dependentsOf g _, fun file => ?_⟩,
    Graph.nodup_targets g, fun target => ?_, fun entry hentry =>
      ⟨Graph.ne_nil_of_mem_index hentry, ?_⟩,
    h.nodup_files hg, rfl, Graph.edgeCount_eq g, ?_⟩
  · rw [Graph.dependents, Graph.mem_dependentsOf, canonical_of_runs h hg, Graph.mem_edges]
  · rw [← Graph.targets, Graph.mem_targets]
    constructor
    · rintro ⟨f, he⟩
      obtain ⟨node, hnode, -, ht⟩ := Graph.mem_edges.1 he
      exact ⟨node, hnode, ht⟩
    · rintro ⟨node, hnode, ht⟩
      exact ⟨node.file, Graph.mem_edges.2 ⟨node, hnode, rfl, ht⟩⟩
  · rw [← Graph.filesOf_of_mem_index hentry]
    exact Graph.nodup_filesOf_index g _
  · rw [Graph.edgeCount_eq, Graph.size_index hedges]

theorem dependents_of_twoFiles :
    ∃ r g, (Builder.forRoot twoFiles ['.'] {}).Runs ["b.py".toList, "./a.py".toList] r ∧
      r.graph = .ok g ∧ g.index.size = 3 ∧
      ∃ node ∈ g.nodes, node.file = "/p/b.py".toList ∧ "/p/a.py".toList ∈ node.edges := by
  obtain ⟨g, hg, he⟩ := twoFiles_builds
  obtain ⟨hlookup, -, -, -, -, -, hcount, hsum⟩ := dependents_of_runs .alone hg
  refine ⟨_, g, .alone, hg, by rw [← hsum, hcount, he]; rfl, ?_⟩
  have hmem : "/p/b.py".toList ∈ g.dependentsOf (g.canonical "x/../a.py".toList) := by
    rw [canonical_of_runs .alone hg, Graph.mem_dependentsOf, he]
    decide
  obtain ⟨node, hnode, hfile, hedge⟩ := ((hlookup _).2.2 _).1 hmem
  refine ⟨node, hnode, hfile, ?_⟩
  have hid : twoFiles.canonical ['.'] "x/../a.py".toList = "/p/a.py".toList := by decide
  exact hid ▸ hedge

end Returned

end ImpactGraph
