import Mathlib.Data.List.Nodup
import ImpactGraph.Graph.Basic
import ImpactGraph.Proofs.Listing

/-!
# The reverse index is the transpose of the edges

The index is built by one addition after another, and an addition does two
things that are both `Text.addNew`: to the keys, and to the files of one key.
So after any list of edges the keys are the distinct targets and the files of
a target are the distinct sources that lead to it. Everything else here is
read off these two equations, and nothing below unfolds `add` again, except
the count: that sizes add up to the number of edges is carried through the
additions, and holds because an edge that occurs once is new when its turn
comes.
-/

namespace ImpactGraph

namespace ReverseIndex

variable {index : ReverseIndex} {target file t : Text} {files : List Text}

theorem keys_add (index : ReverseIndex) (target file : Text) :
    (index.add target file).map (·.1) = Text.addNew (index.map (·.1)) target := by
  induction index with
  | nil => rfl
  | cons entry index ih =>
      obtain ⟨t, files⟩ := entry
      rw [add]
      by_cases ht : t = target
      · rw [if_pos ht, List.map_cons, List.map_cons, ht,
          Text.addNew_of_mem List.mem_cons_self]
      · rw [if_neg ht, List.map_cons, ih, List.map_cons]
        by_cases hin : target ∈ index.map (·.1)
        · rw [Text.addNew_of_mem hin, Text.addNew_of_mem (List.mem_cons_of_mem _ hin)]
        · have hnew : target ∉ t :: index.map (·.1) := List.not_mem_cons_of_ne_of_not_mem
            (Ne.symm ht) hin
          rw [Text.addNew_of_notMem hin, Text.addNew_of_notMem hnew, List.cons_append]

theorem filesOf_cons (t target : Text) (files : List Text) (index : ReverseIndex) :
    filesOf ((t, files) :: index) target = if t = target then files else
      index.filesOf target := by
  rw [filesOf, List.lookup_cons]
  by_cases ht : t = target
  · rw [if_pos ht, beq_iff_eq.2 ht.symm]
    rfl
  · rw [if_neg ht, beq_eq_false_iff_ne.2 (Ne.symm ht)]
    rfl

theorem filesOf_add (index : ReverseIndex) (target file t : Text) :
    (index.add target file).filesOf t =
      if t = target then Text.addNew (index.filesOf t) file else index.filesOf t := by
  induction index with
  | nil =>
      rw [add, filesOf_cons]
      by_cases ht : t = target
      · rw [if_pos ht.symm, if_pos ht]
        rfl
      · rw [if_neg (Ne.symm ht), if_neg ht]
  | cons entry index ih =>
      obtain ⟨u, files⟩ := entry
      rw [add]
      by_cases hu : u = target
      · rw [if_pos hu, filesOf_cons, filesOf_cons]
        by_cases ht : t = target
        · rw [if_pos (hu.trans ht.symm), if_pos ht, if_pos (hu.trans ht.symm)]
        · have hut : u ≠ t := fun h => ht (h.symm.trans hu)
          rw [if_neg hut, if_neg ht, if_neg hut]
      · rw [if_neg hu, filesOf_cons, filesOf_cons, ih]
        by_cases hut : u = t
        · rw [if_pos hut, if_neg (fun h => hu (hut.trans h)), if_pos hut]
        · rw [if_neg hut, if_neg hut]

/-- Where no key occurs twice, an entry is what a lookup of its key finds. -/
theorem filesOf_of_mem (hkeys : (index.map (·.1)).Nodup) (h : (t, files) ∈ index) :
    index.filesOf t = files := by
  induction index with
  | nil => exact absurd h List.not_mem_nil
  | cons entry index ih =>
      obtain ⟨u, others⟩ := entry
      rw [List.map_cons, List.nodup_cons] at hkeys
      rw [filesOf_cons]
      rcases List.mem_cons.1 h with he | h
      · obtain ⟨rfl, rfl⟩ := Prod.mk.inj he
        rw [if_pos rfl]
      · have hne : u ≠ t := fun he => hkeys.1 (List.mem_map.2 ⟨_, h, he.symm⟩)
        rw [if_neg hne, ih hkeys.2 h]

theorem size_add (h : file ∉ index.filesOf target) :
    (index.add target file).size = index.size + 1 := by
  induction index with
  | nil => rfl
  | cons entry index ih =>
      obtain ⟨t, files⟩ := entry
      rw [add]
      rw [filesOf_cons] at h
      by_cases ht : t = target
      · rw [if_pos ht] at h ⊢
        simp only [size, Text.addNew_of_notMem h, List.length_append,
          List.length_singleton]
        omega
      · rw [if_neg ht] at h ⊢
        simp only [size, ih h]
        omega

end ReverseIndex

namespace Graph

open ReverseIndex

variable {g : Graph} {f t : Text}

/-! ## Edges -/

theorem mem_edges : (f, t) ∈ g.edges ↔ ∃ node ∈ g.nodes, node.file = f ∧
    t ∈ node.edges := by
  simp only [edges, List.mem_flatMap, List.mem_map, Prod.mk.injEq]
  constructor
  · rintro ⟨node, hnode, target, ht, rfl, rfl⟩
    exact ⟨node, hnode, rfl, ht⟩
  · rintro ⟨node, hnode, rfl, ht⟩
    exact ⟨node, hnode, t, ht, rfl, rfl⟩

theorem edgeCount_eq (g : Graph) : g.edgeCount = g.edges.length := by
  rw [edgeCount, edges]
  induction g.nodes with
  | nil => rfl
  | cons node nodes ih =>
      rw [List.foldr_cons, ih, List.flatMap_cons, List.length_append, List.length_map]

theorem nodup_edges (hkeys : (g.nodes.map (·.file)).Nodup)
    (hedges : ∀ node ∈ g.nodes, node.edges.Nodup) : g.edges.Nodup := by
  rw [edges, List.nodup_flatMap]
  refine ⟨fun node hnode => ?_, ?_⟩
  · exact (hedges node hnode).map fun a b h => (Prod.mk.inj h).2
  · refine (List.pairwise_map.1 hkeys).imp fun hne => ?_
    intro e ha hb
    obtain ⟨a, -, rfl⟩ := List.mem_map.1 ha
    obtain ⟨b, -, he⟩ := List.mem_map.1 hb
    exact hne (Prod.mk.inj he).1.symm

/-! ## The index after a list of edges -/

theorem keys_foldl_add (edges : List (Text × Text)) (index : ReverseIndex) :
    (edges.foldl (fun index e => index.add e.2 e.1) index).map (·.1) =
      (edges.map (·.2)).foldl Text.addNew (index.map (·.1)) := by
  induction edges generalizing index with
  | nil => rfl
  | cons e edges ih => rw [List.foldl_cons, ih, keys_add, List.map_cons, List.foldl_cons]

theorem filesOf_foldl_add (edges : List (Text × Text)) (index : ReverseIndex) (t : Text) :
    (edges.foldl (fun index e => index.add e.2 e.1) index).filesOf t =
      ((edges.filter (·.2 = t)).map (·.1)).foldl Text.addNew (index.filesOf t) := by
  induction edges generalizing index with
  | nil => rfl
  | cons e edges ih =>
      rw [List.foldl_cons, ih, filesOf_add]
      by_cases he : t = e.2
      · rw [if_pos he, List.filter_cons_of_pos (by simp [he]), List.map_cons,
          List.foldl_cons]
      · rw [if_neg he, List.filter_cons_of_neg (by simpa using Ne.symm he)]

theorem targets_eq (g : Graph) : g.targets = Text.distinct (g.edges.map (·.2)) :=
  keys_foldl_add g.edges []

theorem filesOf_index (g : Graph) (t : Text) :
    g.index.filesOf t = Text.distinct ((g.edges.filter (·.2 = t)).map (·.1)) :=
  filesOf_foldl_add g.edges [] t

theorem nodup_targets (g : Graph) : g.targets.Nodup := by
  rw [targets_eq]
  exact Text.nodup_distinct _

theorem mem_targets : t ∈ g.targets ↔ ∃ f, (f, t) ∈ g.edges := by
  rw [targets_eq, Text.mem_distinct, List.mem_map]
  constructor
  · rintro ⟨⟨f, _⟩, he, rfl⟩
    exact ⟨f, he⟩
  · rintro ⟨f, he⟩
    exact ⟨(f, t), he, rfl⟩

theorem mem_filesOf_index : f ∈ g.index.filesOf t ↔ (f, t) ∈ g.edges := by
  rw [filesOf_index, Text.mem_distinct, List.mem_map]
  constructor
  · rintro ⟨⟨f, u⟩, he, rfl⟩
    rw [List.mem_filter, decide_eq_true_eq] at he
    rw [← he.2]
    exact he.1
  · intro he
    exact ⟨(f, t), List.mem_filter.2 ⟨he, decide_eq_true rfl⟩, rfl⟩

theorem nodup_filesOf_index (g : Graph) (t : Text) : (g.index.filesOf t).Nodup := by
  rw [filesOf_index]
  exact Text.nodup_distinct _

theorem filesOf_of_mem_index {entry : Text × List Text} (h : entry ∈ g.index) :
    g.index.filesOf entry.1 = entry.2 :=
  filesOf_of_mem (nodup_targets g) h

/-- An entry is there because of some edge, so it is not empty. -/
theorem ne_nil_of_mem_index {entry : Text × List Text} (h : entry ∈ g.index) :
    entry.2 ≠ [] := by
  obtain ⟨f, he⟩ := mem_targets.1 (List.mem_map.2 ⟨entry, h, rfl⟩)
  rw [← filesOf_of_mem_index h]
  exact List.ne_nil_of_mem (mem_filesOf_index.2 he)

theorem size_foldl_add {edges : List (Text × Text)} {index : ReverseIndex}
    (hnodup : edges.Nodup) (hnew : ∀ e ∈ edges, e.1 ∉ index.filesOf e.2) :
    size (edges.foldl (fun index e => index.add e.2 e.1) index) =
      index.size + edges.length := by
  induction edges generalizing index with
  | nil => rfl
  | cons e edges ih =>
      rw [List.nodup_cons] at hnodup
      rw [List.foldl_cons, ih hnodup.2, size_add (hnew e List.mem_cons_self),
        List.length_cons]
      · omega
      · intro d hd
        rw [filesOf_add]
        split
        · next ht =>
            rw [Text.mem_addNew]
            rintro (hmem | hsame)
            · exact hnew d (List.mem_cons_of_mem _ hd) hmem
            · exact hnodup.1 ((Prod.ext hsame ht : d = e) ▸ hd)
        · exact hnew d (List.mem_cons_of_mem _ hd)

theorem size_index (h : g.edges.Nodup) :
    g.index.size = g.edges.length := by
  rw [index, size_foldl_add h fun _ _ => List.not_mem_nil]
  exact Nat.zero_add _

/-! ## Lookups -/

theorem mem_dependentsOf : f ∈ g.dependentsOf t ↔ (f, t) ∈ g.edges := by
  rw [dependentsOf, sorted, Text.mem_sort, mem_filesOf_index]

theorem nodup_dependentsOf (g : Graph) (t : Text) : (g.dependentsOf t).Nodup :=
  Text.nodup_sort.2 (nodup_filesOf_index g t)

end Graph

end ImpactGraph
