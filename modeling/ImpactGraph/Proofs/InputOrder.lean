import ImpactGraph.Impact
import ImpactGraph.Proofs.BuiltGraph

/-!
# The order of the input does not show

What a local build finds out about a file depends on the file alone, so two
builds in one workspace can differ only in which files they read and in the
order in which they file the facts. `node?_build` says it in one equation: a
lookup in the graph is a choice between nothing and an answer in which the
list does not occur.

Everything that is asked of a graph later goes through lookups by file, or
through sorted lists without repetitions. So two graphs that look up alike
also walk alike, turn by turn, and not only find the same files but find them
in the same order.
-/

namespace ImpactGraph

namespace Graph

variable {g g' : Graph} {f t : Text}

/-! ## Graphs that look up alike -/

/-- Two graphs below one root, each with one entry for a file, that have the same facts
about every file. -/
structure Alike (g g' : Graph) : Prop where
  root : g.root = g'.root
  keys : (g.nodes.map (·.file)).Nodup
  keys' : (g'.nodes.map (·.file)).Nodup
  node? : ∀ file, g.node? file = g'.node? file

namespace Alike

theorem perm (h : g.Alike g') : g.nodes.Perm g'.nodes := by
  refine (List.perm_ext_iff_of_nodup h.keys.of_map h.keys'.of_map).2 fun node => ?_
  rw [mem_nodes_iff h.keys, mem_nodes_iff h.keys', h.node?]

theorem mem_edges (h : g.Alike g') : (f, t) ∈ g.edges ↔ (f, t) ∈ g'.edges := by
  rw [Graph.mem_edges, Graph.mem_edges]
  simp only [h.perm.mem_iff]

theorem mem_targets (h : g.Alike g') : t ∈ g.targets ↔ t ∈ g'.targets := by
  rw [Graph.mem_targets, Graph.mem_targets]
  exact exists_congr fun f => h.mem_edges

theorem mem_filesOf (h : g.Alike g') : f ∈ g.index.filesOf t ↔
    f ∈ g'.index.filesOf t := by
  rw [mem_filesOf_index, mem_filesOf_index, h.mem_edges]

theorem dependentsOf (h : g.Alike g') (t : Text) : g.dependentsOf t = g'.dependentsOf t :=
  Text.sort_eq_of_mem_iff (nodup_filesOf_index g t) (nodup_filesOf_index g' t)
    fun _ => h.mem_filesOf

theorem canonical (h : g.Alike g') (path : Text) :
    g.canonical path = g'.canonical path := by
  rw [Graph.canonical, Graph.canonical, h.root]

theorem edgeCount (h : g.Alike g') : g.edgeCount = g'.edgeCount := by
  rw [edgeCount_eq, edgeCount_eq]
  exact (h.perm.flatMap_right _).length_eq

/-! ## Walks side by side -/

theorem fresh (h : g.Alike g') (changed : List Text) (w : Walk) (file : Text) :
    g.fresh g.index changed w file = g'.fresh g'.index changed w file := by
  have hsorted := h.dependentsOf (g.canonical file)
  rw [Graph.dependentsOf, Graph.dependentsOf] at hsorted
  rw [Graph.fresh, Graph.fresh, hsorted, h.canonical]

theorem turn (h : g.Alike g') (changed : List Text) (w : Walk) :
    g.turn g.index changed w = g'.turn g'.index changed w := by
  have hedges (file : Text) : g.edgesOf file = g'.edgesOf file := by
    rw [edgesOf, edgesOf, h.node?]
  simp only [Graph.turn, visit, h.fresh, hedges]

theorem walk (h : g.Alike g') (changed : List Text) (w : Walk) :
    g.walk g.index changed w = g'.walk g'.index changed w := by
  induction w using Graph.walk.induct g g.index changed with
  | case1 w hempty =>
      rw [Graph.walk, dif_pos hempty, Graph.walk, dif_pos hempty]
  | case2 w hne ih =>
      rw [Graph.walk, dif_neg hne, ih, h.turn]
      exact ((Graph.walk.eq_def g' g'.index changed w).trans (dif_neg hne)).symm

theorem impact (h : g.Alike g') (changes : List Text) :
    g.impact changes = g'.impact changes := by
  have hchanged : changes.map g.canonical = changes.map g'.canonical :=
    List.map_congr_left fun path _ => h.canonical path
  simp only [Graph.impact, hchanged, h.walk]

end Alike

end Graph

/-! ## Local builds -/

namespace Builder

variable {w : Workspace} {root : Text} {settings : AnalyzerSettings}
  {files F G : List Text} {file : Text}

theorem mem_selected_forRoot :
    file ∈ (forRoot w root settings).selected files ↔
      file ∈ files.map (w.canonical root) ∧
        (forRoot w root settings).isExcluded file = false := by
  rw [selected, List.mem_filter, ids_forRoot, Text.mem_distinct, Bool.not_eq_true']

variable {gF gG : Graph}

theorem alike_of_same_ids (hF : ((forRoot w root settings).build F).graph = .ok gF)
    (hG : ((forRoot w root settings).build G).graph = .ok gG)
    (hids : ∀ id, id ∈ F.map (w.canonical root) ↔ id ∈ G.map (w.canonical root)) :
    gF.Alike gG where
  root := (Runs.root_eq .alone hF).trans (Runs.root_eq .alone hG).symm
  keys := Runs.nodup_files .alone hF
  keys' := Runs.nodup_files .alone hG
  node? file := by
    rw [node?_build hF, node?_build hG]
    simp only [mem_selected_forRoot, hids]

/-- A file that both builds take is read in both or in neither, so facts about it can only
be the same. -/
theorem node?_of_subset (hF : ((forRoot w root settings).build F).graph = .ok gF)
    (hG : ((forRoot w root settings).build G).graph = .ok gG)
    (hids : ∀ id ∈ F.map (w.canonical root), id ∈ G.map (w.canonical root))
    (file : Text) :
    gF.node? file = if file ∈ F.map (w.canonical root) then gG.node? file else none := by
  rw [node?_build hF, node?_build hG]
  simp only [mem_selected_forRoot]
  by_cases hmem : file ∈ F.map (w.canonical root)
  · rw [if_pos hmem]
    have hread := and_congr_left' (c := (forRoot w root settings).isExcluded file = false)
      (iff_of_true hmem (hids file hmem))
    simp only [hread]
  · rw [if_neg hmem, if_neg fun h => hmem h.1]

end Builder

/-- Lists with the same ids, in any order, spelling and repetition, make graphs that
cannot be told apart: the same facts, reverse index and counts, and the same impact of
every change, each list in the same order. A list with some of the ids of another makes
the part of its graph that is about them. -/
theorem builds_agree {w : Workspace} {root : Text} {settings : AnalyzerSettings}
    {F G : List Text} {gF gG : Graph}
    (hF : ((Builder.forRoot w root settings).build F).graph = .ok gF)
    (hG : ((Builder.forRoot w root settings).build G).graph = .ok gG) :
    ((∀ id, id ∈ F.map (w.canonical root) ↔ id ∈ G.map (w.canonical root)) →
      (∀ file, gF.node? file = gG.node? file) ∧ gF.nodes.Perm gG.nodes ∧
      (∀ target, target ∈ gF.index.map (·.1) ↔ target ∈ gG.index.map (·.1)) ∧
      (∀ target file, file ∈ gF.index.filesOf target ↔ file ∈ gG.index.filesOf target) ∧
      (∀ path, gF.dependents path = gG.dependents path) ∧
      gF.fileCount = gG.fileCount ∧ gF.edgeCount = gG.edgeCount ∧
      ∀ changes, gF.impact changes = gG.impact changes) ∧
    ((∀ id ∈ F.map (w.canonical root), id ∈ G.map (w.canonical root)) →
      (∀ file, gF.node? file =
        if file ∈ F.map (w.canonical root) then gG.node? file else none) ∧
      ∀ node, node ∈ gF.nodes ↔ node ∈ gG.nodes ∧
        node.file ∈ F.map (w.canonical root)) := by
  constructor
  · intro hids
    have h := Builder.alike_of_same_ids hF hG hids
    refine ⟨h.node?, h.perm, fun _ => h.mem_targets, fun _ _ => h.mem_filesOf,
      fun path => ?_, h.perm.length_eq, h.edgeCount, h.impact⟩
    rw [Graph.dependents, Graph.dependents, h.canonical, h.dependentsOf]
  · intro hids
    have h := Builder.node?_of_subset hF hG hids
    refine ⟨h, fun node => ?_⟩
    rw [Graph.mem_nodes_iff (Builder.Runs.nodup_files .alone hF), h,
      Graph.mem_nodes_iff (Builder.Runs.nodup_files .alone hG)]
    split
    · next hmem => exact (and_iff_left hmem).symm
    · next hnot => exact iff_of_false (by simp) fun hboth => hnot hboth.2

theorem builds_agree_of_twoFiles :
    ∃ gF gG, ((Builder.forRoot twoFiles ['.'] {}).build
        ["b.py".toList, "./a.py".toList]).graph = .ok gF ∧
      ((Builder.forRoot twoFiles ['.'] {}).build
        ["a.py".toList, "/p/b.py".toList, "x/../a.py".toList]).graph = .ok gG ∧
      gF.edgeCount = 3 ∧ gG.edgeCount = 3 ∧
      gF.impact ["a.py".toList] = gG.impact ["a.py".toList] := by
  obtain ⟨gF, hF, he⟩ := twoFiles_builds
  obtain ⟨gG, hG, -⟩ : ∃ g, ((Builder.forRoot twoFiles ['.'] {}).build
      ["a.py".toList, "/p/b.py".toList, "x/../a.py".toList]).graph = .ok g ∧
        g.fileCount = 2 := by
    refine ok_of_map_eq_ok (g := Graph.fileCount) ?_
    decide +kernel
  have hids : ∀ id, id ∈ ["b.py".toList, "./a.py".toList].map (twoFiles.canonical ['.']) ↔
      id ∈ ["a.py".toList, "/p/b.py".toList,
        "x/../a.py".toList].map (twoFiles.canonical ['.']) := by
    have hleft : ["b.py".toList, "./a.py".toList].map (twoFiles.canonical ['.']) =
        ["/p/b.py".toList, "/p/a.py".toList] := by decide
    have hright : ["a.py".toList, "/p/b.py".toList, "x/../a.py".toList].map
        (twoFiles.canonical ['.']) =
          ["/p/a.py".toList, "/p/b.py".toList, "/p/a.py".toList] := by decide
    intro id
    rw [hleft, hright]
    simp only [List.mem_cons, List.not_mem_nil, or_false]
    constructor
    · exact fun h => Or.inr h
    · rintro (h | h)
      · exact Or.inr h
      · exact h
  have hcount : gF.edgeCount = 3 := by rw [Graph.edgeCount_eq, he]; rfl
  obtain ⟨-, -, -, -, -, -, hedges, himpact⟩ := (builds_agree hF hG).1 hids
  exact ⟨gF, gG, hF, hG, hcount, hedges ▸ hcount, himpact _⟩

end ImpactGraph
