import Mathlib.Data.List.Perm.Subperm
import ImpactGraph.Proofs.ImpactWalk

/-!
# Impacts of several changes

A walk keeps changed files apart from affected ones, so a file that is affected
by one change is not affected by two changes when it is the other one. What the
two lists hold together does not move: it is the closure of the changed files
under the step from a file to what is found when its dependents are looked up.
A closure of a union is the union of the closures, a closure of a closure adds
nothing, and a list counts in it only through the ids it holds. Dependencies
and the chain are read off the closure file by file and follow it.

None of this needs a graph whose files are ids, except the second law: the
files of a closure are looked up again there, and only ids come back as they
are.
-/

namespace ImpactGraph

/-- The changed files and the affected ones. -/
def Impact.touched (i : Impact) : List Text := i.changed ++ i.affected

/-- One file comes up when the dependents of another are looked up. -/
def Graph.Needs (g : Graph) (file target : Text) : Prop :=
  g.DependsOn file (g.canonical target)

/-- Facts are filed under the ids of their files, as in every graph that is built or
filled by hand. -/
def Graph.Keyed (g : Graph) : Prop := ∀ node ∈ g.nodes, g.canonical node.file = node.file

theorem Graph.Made.keyed {g : Graph} (h : g.Made) : g.Keyed :=
  fun _ hnode => g.canonical_eq_self (h.isId_of_mem_nodes hnode)

/-- A file put into a graph by hand, with what it depends on. -/
def Graph.put (g : Graph) (name : String) (targets : List String) : Graph :=
  g.insert { file := g.canonical name.toList, edges := targets.map fun t =>
    g.canonical t.toList }

theorem Graph.Made.put {g : Graph} (h : g.Made) (name : String) (targets : List String) :
    (g.put name targets).Made :=
  h.fill { file := name.toList, edges := targets.map fun t => g.canonical t.toList }

open Relation

namespace Walk

variable {g : Graph} {changed : List Text} {w : Walk} {file : Text} {waiting : List Text}

/-- What every turn of a walk keeps, in graphs of any files. -/
structure Gathers (w : Walk) (g : Graph) (changed : List Text) : Prop where
  line : w.visited.reverse ++ w.waiting = changed ++ w.affected
  nodup : (changed ++ w.affected).Nodup
  sound : ∀ f ∈ changed ++ w.affected, ∃ c ∈ changed, ReflTransGen g.Needs f c
  closed : ∀ v ∈ w.visited, ∀ f, g.Needs f v → f ∈ changed ++ w.affected
  dependencies : w.dependencies = Text.distinct (w.visited.reverse.flatMap g.edgesOf)

namespace Gathers

theorem start (hnodup : changed.Nodup) : Gathers { waiting := changed } g changed where
  line := (List.append_nil changed).symm
  nodup := by rwa [List.append_nil]
  sound f hf := ⟨f, by rwa [List.append_nil] at hf, .refl⟩
  closed _ h := absurd h List.not_mem_nil
  dependencies := rfl

/-- A file that waits or had its turn is a changed or an affected one. -/
theorem mem_of_line (h : w.Gathers g changed) {f : Text}
    (hf : f ∈ w.visited ∨ f ∈ w.waiting) : f ∈ changed ++ w.affected := by
  rwa [← h.line, List.mem_append, List.mem_reverse]

theorem visit (h : w.Gathers g changed) (hw : w.waiting = file :: waiting) :
    (g.visit g.index changed w file waiting).Gathers g changed := by
  have hfile : file ∈ changed ++ w.affected :=
    h.mem_of_line (.inr (hw ▸ List.mem_cons_self))
  have hfresh : ∀ f, f ∈ g.fresh g.index changed w file ↔
      g.Needs f file ∧ f ∉ file :: w.visited ∧ f ∉ changed ∧ f ∉ w.affected := by
    intro f
    rw [Graph.mem_fresh, Graph.Needs, Graph.dependsOn_iff]
  have hsplit : ∀ f, f ∈ changed ++ (g.visit g.index changed w file waiting).affected ↔
      f ∈ changed ++ w.affected ∨ f ∈ g.fresh g.index changed w file := by
    intro f
    rw [Graph.visit, ← List.append_assoc, List.mem_append]
  refine ⟨Graph.line_visit h.line hw, Graph.nodup_visit h.nodup, ?_, ?_, ?_⟩
  · intro f hf
    rcases (hsplit f).1 hf with hold | hnew
    · exact h.sound f hold
    · obtain ⟨c, hc, hpath⟩ := h.sound file hfile
      exact ⟨c, hc, .head ((hfresh f).1 hnew).1 hpath⟩
  · intro v hv f hf
    refine (hsplit f).2 ?_
    rcases List.mem_cons.1 hv with rfl | hv
    · exact Graph.mem_or_mem_fresh
        (List.forall_mem_cons.2 ⟨hfile, fun _ hmem => h.mem_of_line (.inl hmem)⟩)
        (Graph.dependsOn_iff.1 hf)
    · exact Or.inl (h.closed v hv f hf)
  · show (g.edgesOf file).foldl Text.addNew w.dependencies =
      Text.distinct ((file :: w.visited).reverse.flatMap g.edgesOf)
    rw [h.dependencies, List.reverse_cons, List.flatMap_append, List.flatMap_singleton,
      Text.distinct, Text.distinct, List.foldl_append]

theorem walk (h : w.Gathers g changed) :
    (g.walk g.index changed w).Gathers g changed ∧
      (g.walk g.index changed w).waiting = [] :=
  Graph.walk_keeps (P := fun w => w.Gathers g changed) (fun _ h => ⟨h.line, h.nodup⟩)
    (fun _ _ _ h hw => h.visit hw) h

/-! ## The end of a walk -/

variable (h : w.Gathers g changed) (hend : w.waiting = [])
include h hend

theorem mem_iff {f : Text} :
    f ∈ changed ++ w.affected ↔ ∃ c ∈ changed, ReflTransGen g.Needs f c := by
  refine ⟨h.sound f, ?_⟩
  rintro ⟨c, hc, hpath⟩
  induction hpath using ReflTransGen.head_induction_on with
  | refl => exact List.mem_append_left _ hc
  | head hf _ ih =>
      rw [← Walk.visited_reverse h.line hend, List.mem_reverse] at ih
      exact h.closed _ ih _ hf

end Gathers

end Walk

/-! ## Impacts by membership -/

namespace Graph

variable {g : Graph} {changes C D : List Text} {f d : Text}

theorem gathers_impact (g : Graph) (changes : List Text) :
    ∃ w : Walk, w.Gathers g (g.impact changes).changed ∧ w.waiting = [] ∧
      w.affected = (g.impact changes).affected ∧ w.dependencies =
        (g.impact changes).dependencies := by
  have hstart :=
    Walk.Gathers.start (g := g) (Text.nodup_distinct (changes.map g.canonical))
  exact ⟨_, hstart.walk.1, hstart.walk.2, rfl, rfl⟩

theorem mem_changed : f ∈ (g.impact changes).changed ↔ f ∈ changes.map g.canonical :=
  Text.mem_distinct

theorem nodup_touched (g : Graph) (changes : List Text) :
    (g.impact changes).touched.Nodup := by
  obtain ⟨w, h, -, haffected, -⟩ := g.gathers_impact changes
  rw [Impact.touched, ← haffected]
  exact h.nodup

theorem mem_touched : f ∈ (g.impact changes).touched ↔
    ∃ c ∈ changes.map g.canonical, ReflTransGen g.Needs f c := by
  obtain ⟨w, h, hend, haffected, -⟩ := g.gathers_impact changes
  rw [Impact.touched, ← haffected, h.mem_iff hend]
  simp only [mem_changed]

theorem mem_affected_impact : f ∈ (g.impact changes).affected ↔
    f ∈ (g.impact changes).touched ∧ f ∉ changes.map g.canonical := by
  have hnodup := List.nodup_append.1 (g.nodup_touched changes)
  rw [Impact.touched, List.mem_append, ← mem_changed]
  constructor
  · exact fun hf => ⟨.inr hf, fun hc => hnodup.2.2 f hc f hf rfl⟩
  · exact fun ⟨hf, hnc⟩ => hf.resolve_left hnc

/-- The dependencies are those of the touched files, file by file, the first occurrence of
each. -/
theorem dependencies_impact (g : Graph) (changes : List Text) :
    (g.impact changes).dependencies =
      Text.distinct ((g.impact changes).touched.flatMap g.edgesOf) := by
  obtain ⟨w, h, hend, haffected, hdependencies⟩ := g.gathers_impact changes
  rw [← hdependencies, h.dependencies, Walk.visited_reverse h.line hend, haffected,
    Impact.touched]

theorem mem_dependencies_impact : d ∈ (g.impact changes).dependencies ↔
    ∃ v ∈ (g.impact changes).touched, d ∈ g.edgesOf v := by
  rw [dependencies_impact, Text.mem_distinct, List.mem_flatMap]

end Graph

theorem Impact.mem_chain {i : Impact} {f : Text} :
    f ∈ i.chain ↔ f ∈ i.touched ∨ f ∈ i.dependencies := by
  rw [chain, Text.mem_distinct, List.mem_append, touched]

/-! ## Laws -/

namespace Graph

variable {g : Graph} {C D : List Text} {f : Text}

theorem mem_touched_append : f ∈ (g.impact (C ++ D)).touched ↔
    f ∈ (g.impact C).touched ∨ f ∈ (g.impact D).touched := by
  simp only [mem_touched, List.map_append, List.mem_append, or_and_right, exists_or]

theorem mem_dependencies_append : f ∈ (g.impact (C ++ D)).dependencies ↔
    f ∈ (g.impact C).dependencies ∨ f ∈ (g.impact D).dependencies := by
  simp only [mem_dependencies_impact, mem_touched_append, or_and_right, exists_or]

theorem mem_chain_append : f ∈ (g.impact (C ++ D)).chain ↔
    f ∈ (g.impact C).chain ∨ f ∈ (g.impact D).chain := by
  simp only [Impact.mem_chain, mem_touched_append, mem_dependencies_append]
  exact or_or_or_comm

/-- What is touched has its id for a name when facts are filed under ids. -/
theorem Keyed.canonical_of_mem_touched (h : g.Keyed) (hf : f ∈ (g.impact C).touched) :
    g.canonical f = f := by
  obtain ⟨c, hc, hpath⟩ := mem_touched.1 hf
  rcases hpath.cases_head with rfl | ⟨v, ⟨node, hnode, rfl, -⟩, -⟩
  · obtain ⟨path, -, rfl⟩ := List.mem_map.1 hc
    exact g.canonical_eq_self (g.isId_canonical path)
  · exact h node hnode

theorem Keyed.map_canonical_touched (h : g.Keyed) (C : List Text) :
    (g.impact C).touched.map g.canonical = (g.impact C).touched := by
  conv_rhs => rw [← List.map_id (g.impact C).touched]
  exact List.map_congr_left fun _ hf => h.canonical_of_mem_touched hf

/-- What is touched touches nothing else. -/
theorem Keyed.mem_touched_of_mem_touched (h : g.Keyed)
    (hf : f ∈ (g.impact (g.impact C).touched).touched) : f ∈ (g.impact C).touched := by
  obtain ⟨v, hv, hpath⟩ := mem_touched.1 hf
  rw [h.map_canonical_touched C] at hv
  obtain ⟨c, hc, hrest⟩ := mem_touched.1 hv
  exact mem_touched.2 ⟨c, hc, hpath.trans hrest⟩

theorem Keyed.impact_touched (h : g.Keyed) (C : List Text) :
    g.impact (g.impact C).touched =
      { changed := (g.impact C).touched, affected := []
        dependencies := (g.impact C).dependencies } := by
  have hmap := h.map_canonical_touched C
  have hchanged : (g.impact (g.impact C).touched).changed = (g.impact C).touched := by
    show Text.distinct ((g.impact C).touched.map g.canonical) = _
    rw [hmap, Text.distinct_of_nodup (g.nodup_touched C)]
  have haffected : (g.impact (g.impact C).touched).affected = [] := by
    refine List.eq_nil_iff_forall_not_mem.2 fun f hf => ?_
    obtain ⟨htouched, hnot⟩ := mem_affected_impact.1 hf
    rw [hmap] at hnot
    exact hnot (h.mem_touched_of_mem_touched htouched)
  have hdependencies : (g.impact (g.impact C).touched).dependencies =
      (g.impact C).dependencies := by
    rw [dependencies_impact, dependencies_impact g C, Impact.touched, hchanged, haffected,
      List.append_nil]
  cases himpact : g.impact (g.impact C).touched
  rw [himpact] at hchanged haffected hdependencies
  rw [Impact.mk.injEq]
  exact ⟨hchanged, haffected, hdependencies⟩

/-- The chain of an impact whose files are changed again is the same, file by file. -/
theorem Keyed.chain_touched (h : g.Keyed) (C : List Text) :
    (g.impact (g.impact C).touched).chain = (g.impact C).chain := by
  rw [h.impact_touched C, Impact.chain, Impact.chain, List.append_nil, Impact.touched]

end Graph

/-- An impact holds what two impacts hold together. -/
structure Impact.Joins (i j k : Impact) : Prop where
  touched : ∀ f, f ∈ i.touched ↔ f ∈ j.touched ∨ f ∈ k.touched
  dependencies : ∀ f, f ∈ i.dependencies ↔ f ∈ j.dependencies ∨ f ∈ k.dependencies
  chain : ∀ f, f ∈ i.chain ↔ f ∈ j.chain ∨ f ∈ k.chain

/-- An impact holds nothing that another does not hold, and is no larger to review. -/
structure Impact.Within (i j : Impact) : Prop where
  touched : i.touched ⊆ j.touched
  dependencies : i.dependencies ⊆ j.dependencies
  chain : i.chain ⊆ j.chain
  scope : i.chain.length ≤ j.chain.length

/-- Two impacts hold the same files, in whatever order. -/
structure Impact.Alike (i j : Impact) : Prop where
  changed : ∀ f, f ∈ i.changed ↔ f ∈ j.changed
  affected : ∀ f, f ∈ i.affected ↔ f ∈ j.affected
  dependencies : ∀ f, f ∈ i.dependencies ↔ f ∈ j.dependencies
  chain : ∀ f, f ∈ i.chain ↔ f ∈ j.chain
  scope : i.chain.length = j.chain.length

namespace Graph

variable {g : Graph} {C D : List Text}

theorem joins_impact (g : Graph) (C D : List Text) :
    (g.impact (C ++ D)).Joins (g.impact C) (g.impact D) where
  touched _ := mem_touched_append
  dependencies _ := mem_dependencies_append
  chain _ := mem_chain_append

theorem within_impact (h : C.map g.canonical ⊆ D.map g.canonical) :
    (g.impact C).Within (g.impact D) := by
  have htouched : (g.impact C).touched ⊆ (g.impact D).touched := by
    intro f hf
    obtain ⟨c, hc, hpath⟩ := mem_touched.1 hf
    exact mem_touched.2 ⟨c, h hc, hpath⟩
  have hdependencies : (g.impact C).dependencies ⊆ (g.impact D).dependencies := by
    intro d hd
    obtain ⟨v, hv, hedge⟩ := mem_dependencies_impact.1 hd
    exact mem_dependencies_impact.2 ⟨v, htouched hv, hedge⟩
  have hchain : (g.impact C).chain ⊆ (g.impact D).chain := fun f hf =>
    Impact.mem_chain.2 ((Impact.mem_chain.1 hf).imp (fun ht => htouched ht) fun hd =>
      hdependencies hd)
  refine ⟨htouched, hdependencies, hchain, ?_⟩
  exact (List.subperm_of_subset (Text.nodup_distinct _) hchain).length_le

theorem alike_impact (h : ∀ f, f ∈ C.map g.canonical ↔ f ∈ D.map g.canonical) :
    (g.impact C).Alike (g.impact D) := by
  have hCD := within_impact (g := g) (C := C) (D := D) fun f => (h f).1
  have hDC := within_impact (g := g) (C := D) (D := C) fun f => (h f).2
  refine ⟨fun f => ?_, fun f => ?_, fun f => ⟨?_, ?_⟩, fun f => ⟨?_, ?_⟩, ?_⟩
  · rw [mem_changed, mem_changed, h]
  · rw [mem_affected_impact, mem_affected_impact, h]
    exact and_congr_left fun _ => ⟨fun ht => hCD.touched ht, fun ht => hDC.touched ht⟩
  · exact fun hd => hCD.dependencies hd
  · exact fun hd => hDC.dependencies hd
  · exact fun hf => hCD.chain hf
  · exact fun hf => hDC.chain hf
  · exact Nat.le_antisymm hCD.scope hDC.scope

/-- Impacts of several changes at once: the impact of two lists of changes joins the two
impacts; when all touched files are changed nothing else is affected and the rest stays as
it is; and an impact grows with the ids of its changes, on which alone it depends. -/
theorem impact_of_several_changes (g : Graph) :
    (∀ C D : List Text, (g.impact (C ++ D)).Joins (g.impact C) (g.impact D)) ∧
    (g.Keyed → ∀ C : List Text,
      let i := g.impact C
      g.impact i.touched =
        { changed := i.touched, affected := [], dependencies := i.dependencies } ∧
        (g.impact i.touched).chain = i.chain) ∧
    (∀ C D : List Text, C.map g.canonical ⊆ D.map g.canonical →
      (g.impact C).Within (g.impact D)) ∧
    ∀ C D : List Text, (∀ f, f ∈ C.map g.canonical ↔ f ∈ D.map g.canonical) →
      (g.impact C).Alike (g.impact D) :=
  ⟨g.joins_impact, fun h C => ⟨h.impact_touched C, h.chain_touched C⟩,
    fun _ _ h => within_impact h, fun _ _ h => alike_impact h⟩

theorem several_changes_of_loop :
    let gone := loop.impact ["x/../gone".toList]
    loop.impact gone.touched =
        { changed := gone.touched, affected := [], dependencies := gone.dependencies } ∧
      gone.Within (loop.impact ["./a".toList, "gone".toList]) ∧
      gone.Alike (loop.impact ["/p/gone".toList, "gone".toList]) := by
  have hmade : loop.Made := .fill (.fill (.empty _ _) _) _
  obtain ⟨-, hagain, hgrows, hids⟩ := impact_of_several_changes loop
  refine ⟨(hagain hmade.keyed _).1, hgrows _ _ ?_, hids _ _ fun f => ?_⟩
  · decide
  · have hgone : ["x/../gone".toList].map loop.canonical = ["/p/gone".toList] := by decide
    have htwice : ["/p/gone".toList, "gone".toList].map loop.canonical =
        ["/p/gone".toList, "/p/gone".toList] := by decide
    simp only [hgone, htwice, List.mem_cons, or_self_left]

end Graph

end ImpactGraph
