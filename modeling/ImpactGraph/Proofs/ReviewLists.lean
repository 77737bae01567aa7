import Mathlib.Data.Finset.Card
import Mathlib.Data.List.Dedup
import ImpactGraph.Proofs.ImpactUnions

/-!
# What there is to review

A walk fills two lists in one pass, and each file that has its turn adds to
both. The affected files feed the line of those that wait, the dependencies do
not; so what is listed beside the touched files is one step from them and no
further. Read off at the end, the dependencies are those of the touched files
in the order of their turns, and a file counts once however often and in
whatever list it comes up.
-/

namespace ImpactGraph

namespace Graph

theorem flatMap_edgesOf (g : Graph) (files : List Text) :
    files.flatMap g.edgesOf = (files.filterMap g.node?).flatMap (·.edges) := by
  induction files with
  | nil => rfl
  | cons file files ih =>
      rw [List.flatMap_cons, ih, edgesOf]
      cases hnode : g.node? file with
      | none => rw [List.filterMap_cons_none hnode]; rfl
      | some node => rw [List.filterMap_cons_some hnode]; rfl

end Graph

theorem Impact.chain_eq (i : Impact) :
    i.chain = (i.changed ++ i.affected ++ i.dependencies).eraseDups :=
  Text.distinct_eq_eraseDups _

theorem Impact.length_chain (i : Impact) :
    i.chain.length = (i.changed ++ i.affected ++ i.dependencies).toFinset.card := by
  have hnodup : i.chain.Nodup := Text.nodup_distinct _
  have hfiles : i.chain.toFinset =
      (i.changed ++ i.affected ++ i.dependencies).toFinset := by
    ext file
    rw [List.mem_toFinset, List.mem_toFinset, chain, Text.mem_distinct]
  rw [← hfiles, List.toFinset_card_of_nodup hnodup]

/-- The dependencies are the edges of the changed and the affected files that have facts,
in the order of the files and the first of each; the chain is the three lists one after
another, the first of each file; and there is as much to review as there are different
files in the three lists. -/
theorem lists_of_impact (g : Graph) (changes : List Text) :
    let i := g.impact changes
    i.dependencies =
      (((i.changed ++ i.affected).filterMap g.node?).flatMap (·.edges)).eraseDups ∧
      i.chain = (i.changed ++ i.affected ++ i.dependencies).eraseDups ∧
      i.fields.lookup "review_scope".toList = some (.nat
        (i.changed ++ i.affected ++ i.dependencies).toFinset.card) := by
  intro i
  refine ⟨?_, i.chain_eq, ?_⟩
  · rw [← Text.distinct_eq_eraseDups, ← g.flatMap_edgesOf]
    exact g.dependencies_impact changes
  · show some (Value.nat i.chain.length) = _
    rw [i.length_chain]

end ImpactGraph
