import Mathlib.Logic.Function.Iterate
import Mathlib.Logic.Relation
import ImpactGraph.Impact
import ImpactGraph.Proofs.BuiltGraph

/-!
# What a walk from changed files finds

The loop keeps four lists, and one equation between them carries the proof:
the files that had their turn, in order, followed by those that wait, are the
changed files followed by the affected ones. Since nothing on the right comes
twice, no file waits that already had its turn, every turn is a visit, and a
walk takes one turn for each changed and each affected file.

When no file waits any more the equation says that every changed and every
affected file had its turn, so whatever depends on one of them was found. That
is completeness; soundness is carried along with the equation. Lookups
normalise what they are asked about, which is why the graph has to file its
facts under ids. Targets of edges may be anything: one that is no id is met by
no file.
-/

namespace ImpactGraph

open ImpactGraph.Path

/-- One file names another among its edges. -/
def Graph.DependsOn (g : Graph) (file target : Text) : Prop :=
  ∃ node ∈ g.nodes, node.file = file ∧ target ∈ node.edges

/-- Graphs that builds return, and graphs that are filled by hand: facts of any kind, one
after another, each filed under the id of its file. -/
inductive Graph.Made : Graph → Prop
  | built {w : Workspace} {root : Text} {settings : AnalyzerSettings} {files : List Text}
    {r : BuildResult} {g : Graph} (h : (Builder.forRoot w root settings).Runs files r)
    (hg : r.graph = .ok g) : g.Made
  | empty (cwd root : Text) : Graph.Made { root := Path.canonical cwd root ['.'] }
  | fill {g : Graph} (h : g.Made) (facts : FileFacts) :
    (g.insert { facts with file := g.canonical facts.file }).Made

namespace Graph

variable {g : Graph} {index : ReverseIndex} {changed : List Text} {w : Walk}
  {f file : Text}

theorem dependsOn_iff {target : Text} : g.DependsOn f target ↔ (f, target) ∈ g.edges :=
  mem_edges.symm

theorem mem_edges_of_mem_edgesOf {d v : Text} (h : d ∈ g.edgesOf v) :
    (v, d) ∈ g.edges := by
  rw [edgesOf] at h
  cases hnode : g.node? v with
  | none => simp [hnode] at h
  | some node =>
      rw [hnode] at h
      exact mem_edges.2 ⟨node, List.mem_of_find?_eq_some hnode, file_of_node? hnode, h⟩

/-- The edges of a file are those that lead from it, when no file has facts twice. -/
theorem mem_edgesOf (hkeys : (g.nodes.map (·.file)).Nodup) {d v : Text} :
    d ∈ g.edgesOf v ↔ (v, d) ∈ g.edges := by
  refine ⟨mem_edges_of_mem_edgesOf, fun h => ?_⟩
  obtain ⟨node, hnode, rfl, hd⟩ := mem_edges.1 h
  rwa [edgesOf, (node?_eq_some_iff hkeys).2 ⟨hnode, rfl⟩]

theorem isId_canonical (g : Graph) (path : Text) :
    IsId (g.canonical path) := isId_normal _

theorem canonical_eq_self (g : Graph) (h : IsId file) : g.canonical file = file := by
  rw [canonical, Path.join, if_pos h.isAbsolute, h.normal_eq]

theorem Made.isId_of_mem_nodes (h : g.Made) {node : FileFacts} (hnode : node ∈ g.nodes) :
    IsId node.file := by
  induction h with
  | built h hg => exact (h.canonical_of_mem_nodes hg hnode).file
  | empty cwd root => exact absurd hnode List.not_mem_nil
  | fill _ facts ih =>
      rcases mem_insert_nodes hnode with hnode | rfl
      · exact ih hnode
      · exact isId_canonical _ _

/-! ## Turns -/

theorem mem_fresh :
    f ∈ g.fresh g.index changed w file ↔
      (f, g.canonical file) ∈ g.edges ∧ f ∉ file :: w.visited ∧ f ∉ changed ∧
        f ∉ w.affected := by
  simp only [fresh, List.mem_filter, Bool.and_eq_true, decide_eq_true_eq, and_assoc]
  rw [← dependentsOf, mem_dependentsOf]

theorem nodup_fresh : (g.fresh g.index changed w file).Nodup :=
  (nodup_dependentsOf g _).filter _

/-- While the files that had their turn are changed or affected, whatever a lookup finds
is changed or affected after it. -/
theorem mem_or_mem_fresh (hvisited : ∀ v ∈ file :: w.visited, v ∈ changed ++ w.affected)
    (hf : (f, g.canonical file) ∈ g.edges) :
    f ∈ changed ++ w.affected ∨ f ∈ g.fresh g.index changed w file := by
  by_cases hknown : f ∈ changed ++ w.affected
  · exact Or.inl hknown
  · refine Or.inr (mem_fresh.2 ⟨hf, fun hmem => hknown (hvisited f hmem), ?_, ?_⟩)
    · exact fun hc => hknown (List.mem_append_left _ hc)
    · exact fun ha => hknown (List.mem_append_right _ ha)

variable {waiting : List Text}

/-- The equation between the lists of a walk outlasts a visit. -/
theorem line_visit (hline : w.visited.reverse ++ w.waiting = changed ++ w.affected)
    (hw : w.waiting = file :: waiting) :
    (g.visit index changed w file waiting).visited.reverse ++
        (g.visit index changed w file waiting).waiting =
      changed ++ (g.visit index changed w file waiting).affected := by
  show (file :: w.visited).reverse ++ (waiting ++ _) = changed ++ (w.affected ++ _)
  rw [List.reverse_cons, List.append_assoc, ← List.append_assoc changed, ← hline, hw,
    List.append_assoc, List.singleton_append, List.cons_append]

theorem nodup_visit (hnodup : (changed ++ w.affected).Nodup) :
    (changed ++ (g.visit g.index changed w file waiting).affected).Nodup := by
  show (changed ++ (w.affected ++ _)).Nodup
  rw [← List.append_assoc, List.nodup_append]
  refine ⟨hnodup, nodup_fresh, fun a ha b hb => ?_⟩
  rintro rfl
  obtain ⟨-, -, hnc, hna⟩ := mem_fresh.1 hb
  rcases List.mem_append.1 ha with hc | ha
  · exact hnc hc
  · exact hna ha

/-- While the equation holds, a file that waits did not have its turn yet, so its turn is
a visit. -/
theorem turn_eq_visit (hline : w.visited.reverse ++ w.waiting = changed ++ w.affected)
    (hnodup : (changed ++ w.affected).Nodup) (hw : w.waiting = file :: waiting) :
    g.turn index changed w = g.visit index changed w file waiting := by
  rw [← hline, hw, List.nodup_append] at hnodup
  have hnew : file ∉ w.visited := fun hmem =>
    hnodup.2.2 file (List.mem_reverse.2 hmem) file List.mem_cons_self rfl
  simp only [turn, hw]
  exact if_neg hnew

/-- What holds of a walk and outlasts visits holds at its end. -/
theorem walk_keeps {P : Walk → Prop}
    (hline : ∀ w, P w → w.visited.reverse ++ w.waiting = changed ++ w.affected ∧
      (changed ++ w.affected).Nodup)
    (hvisit : ∀ w file waiting, P w → w.waiting = file :: waiting →
      P (g.visit index changed w file waiting))
    (h : P w) : P (g.walk index changed w) ∧ (g.walk index changed w).waiting = [] := by
  induction w using Graph.walk.induct g index changed with
  | case1 w hempty =>
      rw [Graph.walk, dif_pos hempty]
      exact ⟨h, hempty⟩
  | case2 w hne ih =>
      obtain ⟨file, waiting, hw⟩ := List.exists_cons_of_ne_nil hne
      obtain ⟨hsame, hnodup⟩ := hline w h
      have hturn : g.turn index changed w = g.visit index changed w file waiting :=
        turn_eq_visit hsame hnodup hw
      rw [Graph.walk, dif_neg hne]
      rw [hturn] at ih ⊢
      exact ih (hvisit w file waiting h hw)

end Graph

/-- What every turn of a walk from changed files keeps. -/
structure Walk.Tracks (w : Walk) (g : Graph) (changed : List Text) : Prop where
  line : w.visited.reverse ++ w.waiting = changed ++ w.affected
  nodup : (changed ++ w.affected).Nodup
  ids : ∀ f ∈ changed ++ w.affected, IsId f
  sound : ∀ f ∈ w.affected, ∃ c ∈ changed, Relation.TransGen g.DependsOn f c
  closed : ∀ v ∈ w.visited, ∀ f, g.DependsOn f v → f ∈ changed ++ w.affected

/-- At the end of a walk every file was visited. -/
theorem Walk.visited_reverse {w : Walk} {changed : List Text}
    (hline : w.visited.reverse ++ w.waiting = changed ++ w.affected)
    (hend : w.waiting = []) : w.visited.reverse = changed ++ w.affected := by
  rw [← hline, hend, List.append_nil]

namespace Walk.Tracks

variable {g : Graph} {changed : List Text} {w : Walk} {file : Text} {waiting : List Text}

theorem start (hnodup : changed.Nodup) (hids : ∀ f ∈ changed, IsId f) :
    Tracks { waiting := changed } g changed where
  line := (List.append_nil changed).symm
  nodup := by rwa [List.append_nil]
  ids := by rwa [List.append_nil]
  sound _ h := absurd h List.not_mem_nil
  closed _ h := absurd h List.not_mem_nil

theorem mem_of_mem_visited (h : w.Tracks g changed) {v : Text} (hv : v ∈ w.visited) :
    v ∈ changed ++ w.affected := by
  rw [← h.line]
  exact List.mem_append_left _ (List.mem_reverse.2 hv)

theorem mem_of_waiting (h : w.Tracks g changed) (hw : w.waiting = file :: waiting) :
    file ∈ changed ++ w.affected := by
  rw [← h.line, hw]
  exact List.mem_append_right _ List.mem_cons_self

theorem visit (hfiles : ∀ node ∈ g.nodes, IsId node.file) (h : w.Tracks g changed)
    (hw : w.waiting = file :: waiting) :
    (g.visit g.index changed w file waiting).Tracks g changed := by
  have hfile : file ∈ changed ++ w.affected := h.mem_of_waiting hw
  have hid : g.canonical file = file := g.canonical_eq_self (h.ids file hfile)
  have hreach : ∀ f, g.DependsOn f file → ∃ c ∈ changed,
      Relation.TransGen g.DependsOn f c := by
    intro f hf
    rcases List.mem_append.1 hfile with hc | ha
    · exact ⟨file, hc, .single hf⟩
    · obtain ⟨c, hc, hpath⟩ := h.sound file ha
      exact ⟨c, hc, .head hf hpath⟩
  have hfresh : ∀ f, f ∈ g.fresh g.index changed w file ↔
      g.DependsOn f file ∧ f ∉ file :: w.visited ∧ f ∉ changed ∧ f ∉ w.affected := by
    intro f
    rw [Graph.mem_fresh, hid, Graph.dependsOn_iff]
  refine ⟨?_, ?_, ?_, ?_, ?_⟩
  · exact Graph.line_visit h.line hw
  · exact Graph.nodup_visit h.nodup
  · intro f hf
    rw [Graph.visit, ← List.append_assoc, List.mem_append] at hf
    rcases hf with hf | hf
    · exact h.ids f hf
    · obtain ⟨⟨node, hnode, rfl, -⟩, -⟩ := (hfresh f).1 hf
      exact hfiles node hnode
  · intro f hf
    rcases List.mem_append.1 hf with hf | hf
    · exact h.sound f hf
    · exact hreach f ((hfresh f).1 hf).1
  · intro v hv f hf
    show f ∈ changed ++ (w.affected ++ _)
    rw [← List.append_assoc, List.mem_append]
    rcases List.mem_cons.1 hv with rfl | hv
    · refine Graph.mem_or_mem_fresh
        (List.forall_mem_cons.2 ⟨hfile, fun _ => h.mem_of_mem_visited⟩) ?_
      rwa [hid, ← Graph.dependsOn_iff]
    · exact Or.inl (h.closed v hv f hf)

/-- Some turns lead from one walk to another, one for each file that had its turn on the
way. -/
def Leads (g : Graph) (changed : List Text) (w v : Walk) : Prop :=
  ∃ n, (g.turn g.index changed)^[n] w = v ∧ n + w.visited.length = v.visited.length

theorem leads_visit {v : Walk} (hv : v.Tracks g changed) (h : Leads g changed w v)
    (hw : v.waiting = file :: waiting) :
    Leads g changed w (g.visit g.index changed v file waiting) := by
  obtain ⟨n, hn, hcount⟩ := h
  refine ⟨n + 1, ?_, ?_⟩
  · rw [Function.iterate_succ_apply', hn, Graph.turn_eq_visit hv.line hv.nodup hw]
  · rw [Graph.visit, List.length_cons]
    omega

/-- A walk keeps what its turns keep and ends with an empty line, after one turn for each
file that had its turn on the way. -/
theorem walk (hfiles : ∀ node ∈ g.nodes, IsId node.file) (h : w.Tracks g changed) :
    (g.walk g.index changed w).Tracks g changed ∧
      (g.walk g.index changed w).waiting = [] ∧
      ∃ n, (g.turn g.index changed)^[n] w = g.walk g.index changed w ∧
        n + w.visited.length = (g.walk g.index changed w).visited.length := by
  obtain ⟨⟨htracks, hleads⟩, hend⟩ :=
    Graph.walk_keeps (P := fun v => v.Tracks g changed ∧ Leads g changed w v)
    (fun _ hv => ⟨hv.1.line, hv.1.nodup⟩)
    (fun _ _ _ hv hw => ⟨hv.1.visit hfiles hw, leads_visit hv.1 hv.2 hw⟩) ⟨h, 0, rfl,
      Nat.zero_add _⟩
  exact ⟨htracks, hend, hleads⟩

/-! ## The end of a walk -/

variable (h : w.Tracks g changed) (hend : w.waiting = [])
include h hend

theorem mem_of_dependsOn {f v : Text} (hv : v ∈ changed ++ w.affected)
    (hf : g.DependsOn f v) : f ∈ changed ++ w.affected := by
  rw [← Walk.visited_reverse h.line hend, List.mem_reverse] at hv
  exact h.closed v hv f hf

theorem mem_of_transGen {f c : Text} (hc : c ∈ changed)
    (hpath : Relation.TransGen g.DependsOn f c) : f ∈ changed ++ w.affected := by
  induction hpath using Relation.TransGen.head_induction_on with
  | single hf => exact h.mem_of_dependsOn hend (List.mem_append_left _ hc) hf
  | head hf _ ih => exact h.mem_of_dependsOn hend ih hf

theorem mem_affected {f : Text} :
    f ∈ w.affected ↔ f ∉ changed ∧ ∃ c ∈ changed, Relation.TransGen g.DependsOn f c := by
  constructor
  · intro hf
    refine ⟨fun hc => ?_, h.sound f hf⟩
    exact (List.nodup_append.1 h.nodup).2.2 f hc f hf rfl
  · rintro ⟨hnc, c, hc, hpath⟩
    exact (List.mem_append.1 (h.mem_of_transGen hend hc hpath)).resolve_left hnc

end Walk.Tracks

/-! ## Impact -/

/-- The walk of an impact comes to its end after one turn for each changed and each
affected file, and the affected files are, once each, those from which a changed file is
reached along at least one edge and which are not changed themselves. -/
theorem affected_of_made {g : Graph} (h : g.Made) (changes : List Text) :
    let i := g.impact changes
    let last := (g.turn g.index i.changed)^[i.changed.length + i.affected.length]
      { waiting := i.changed }
    last.waiting = [] ∧ i.affected = last.affected ∧ i.affected.Nodup ∧
    ∀ f, f ∈ i.affected ↔ f ∉ changes.map g.canonical ∧
      ∃ c ∈ changes.map g.canonical, Relation.TransGen g.DependsOn f c := by
  have hids : ∀ f ∈ Text.distinct (changes.map g.canonical), IsId f := by
    intro f hf
    obtain ⟨path, -, rfl⟩ := List.mem_map.1 (Text.mem_distinct.1 hf)
    exact g.isId_canonical path
  have hstart := Walk.Tracks.start (g := g) (Text.nodup_distinct _) hids
  obtain ⟨htracks, hend, n, hn, hcount⟩ := hstart.walk fun _ => h.isId_of_mem_nodes
  have hlength : n = (g.impact changes).changed.length +
      (g.impact changes).affected.length := by
    have hvisited := congrArg List.length (Walk.visited_reverse htracks.line hend)
    rw [List.length_reverse, List.length_append, ← hcount] at hvisited
    exact hvisited
  refine ⟨?_, ?_, ?_, fun f => ?_⟩
  · rw [← hlength]
    exact hn ▸ hend
  · rw [← hlength]
    exact (congrArg Walk.affected hn).symm
  · exact (List.nodup_append.1 htracks.nodup).2.1
  · have hmem := htracks.mem_affected hend (f := f)
    simp only [Text.mem_distinct] at hmem
    exact hmem

/-- Two files that depend on each other, one of them on itself and on a file that is not
there. -/
def loop : Graph :=
  let top : Graph := { root := Path.canonical "/".toList "p".toList ['.'] }
  let a : FileFacts := { file := "a".toList, edges := ["/p/a".toList, "/p/b".toList] }
  let g := top.insert { a with file := top.canonical a.file }
  let b : FileFacts :=
    { file := "./b".toList, edges := ["/p/a".toList, "/p/gone".toList] }
  g.insert { b with file := g.canonical b.file }

theorem affected_of_loop :
    (loop.impact ["x/../gone".toList]).affected.Nodup ∧
      "/p/a".toList ∈ (loop.impact ["x/../gone".toList]).affected ∧
      "/p/gone".toList ∉ (loop.impact ["x/../gone".toList]).affected := by
  have hmade : loop.Made := .fill (.fill (.empty _ _) _) _
  have hgone : ["x/../gone".toList].map loop.canonical = ["/p/gone".toList] := by decide
  have hpath : Relation.TransGen loop.DependsOn "/p/a".toList "/p/gone".toList := by
    refine .head (b := "/p/b".toList) ?_ (.single ?_)
    all_goals
      rw [Graph.dependsOn_iff]
      decide
  obtain ⟨-, -, hnodup, hmem⟩ := affected_of_made hmade ["x/../gone".toList]
  simp only [hgone, List.mem_singleton] at hmem
  exact ⟨hnodup, (hmem _).2 ⟨by decide, _, rfl, hpath⟩, fun h => ((hmem _).1 h).1 rfl⟩

end ImpactGraph
