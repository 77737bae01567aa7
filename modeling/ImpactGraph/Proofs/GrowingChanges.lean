import ImpactGraph.Proofs.ImpactUnions

/-!
# The size class of a change that grows

More changes touch more files and bring more dependencies, so the sum that a size
class is read from never falls. The class has a second threshold, on the affected
files alone, and that number does fall: a file that one change affects is not
affected by the two changes together when it is changed itself. So a class can be
lost only there, with the affected files at or below a threshold they were above
and a sum that is too small to make up for it. It is never lost twice: eleven
affected files are more than ten files to review, however they are divided.
-/

namespace ImpactGraph

/-- The place of a size class among the three. -/
def Severity.rank : Severity → Nat
  | low => 0
  | medium => 1
  | high => 2

namespace Impact

variable {i : Impact}

/-- What the size class of an impact counts: its three lists. -/
def total (i : Impact) : Nat :=
  i.changed.length + i.affected.length + i.dependencies.length

theorem total_eq (i : Impact) : i.total = i.touched.length + i.dependencies.length := by
  rw [total, touched, List.length_append]

theorem severity_eq_high : i.severity = .high ↔ 20 < i.total ∨
    10 < i.affected.length := by
  simp only [severity, Severity.ofCounts, total, Bool.or_eq_true, decide_eq_true_eq]
  split
  · simp only [true_iff]
    omega
  · split <;> simp only [reduceCtorEq, false_iff] <;> omega

theorem severity_eq_low : i.severity = .low ↔ i.total ≤ 10 ∧ i.affected.length ≤ 5 := by
  simp only [severity, Severity.ofCounts, total, Bool.or_eq_true, decide_eq_true_eq]
  split
  · simp only [reduceCtorEq, false_iff]
    omega
  · split <;> simp only [reduceCtorEq, false_iff, true_iff] <;> omega

/-- A class is lost when it was reached by the affected files and no threshold is reached
any more. -/
theorem rank_lt_iff {j : Impact} (h : i.total ≤ j.total) :
    j.severity.rank < i.severity.rank ↔
      10 < i.affected.length ∧ j.affected.length ≤ 10 ∧ j.total ≤ 20 ∨
        5 < i.affected.length ∧ j.affected.length ≤ 5 ∧ j.total ≤ 10 := by
  have hi := severity_eq_high (i := i)
  have hi' := severity_eq_low (i := i)
  have hj := severity_eq_high (i := j)
  have hj' := severity_eq_low (i := j)
  cases hs : i.severity <;> cases hs' : j.severity <;>
    simp only [hs, hs', reduceCtorEq, true_iff, false_iff, Severity.rank]
      at hi hi' hj hj' ⊢ <;>
    omega

end Impact

namespace Graph

variable {g : Graph} {C D : List Text}

theorem nodup_dependencies (g : Graph) (C : List Text) :
    (g.impact C).dependencies.Nodup := by
  rw [dependencies_impact]
  exact Text.nodup_distinct _

theorem total_le (h : C.map g.canonical ⊆ D.map g.canonical) :
    (g.impact C).total ≤ (g.impact D).total := by
  have hwithin := within_impact h
  have htouched := (List.subperm_of_subset (g.nodup_touched C) hwithin.touched).length_le
  have hdependencies :=
    (List.subperm_of_subset (g.nodup_dependencies C) hwithin.dependencies).length_le
  rw [Impact.total_eq, Impact.total_eq]
  omega

/-- Affected files that are not changed themselves stay affected. -/
theorem length_affected_le (h : C.map g.canonical ⊆ D.map g.canonical)
    (hkept : ∀ f ∈ (g.impact C).affected, f ∉ D.map g.canonical) :
    (g.impact C).affected.length ≤ (g.impact D).affected.length := by
  have hsub : (g.impact C).affected ⊆ (g.impact D).affected := by
    intro f hf
    have htouched := (mem_affected_impact.1 hf).1
    exact mem_affected_impact.2 ⟨(within_impact h).touched htouched, hkept f hf⟩
  have hnodup := (List.nodup_append.1 (g.nodup_touched C)).2.1
  exact (List.subperm_of_subset hnodup hsub).length_le

/-- A larger change has a smaller size class exactly when so many affected files are
changed in it that their number falls from above a threshold to the threshold or below,
and the three lists together stay within the bound that goes with it. Then it is one class
smaller; and it is not when no file that the smaller change affects is changed. -/
theorem severity_of_larger_change (h : C.map g.canonical ⊆ D.map g.canonical) :
    let i := g.impact C
    let j := g.impact D
    (j.severity.rank < i.severity.rank ↔
      10 < i.affected.length ∧ j.affected.length ≤ 10 ∧ j.total ≤ 20 ∨
        5 < i.affected.length ∧ j.affected.length ≤ 5 ∧ j.total ≤ 10) ∧
    i.severity.rank ≤ j.severity.rank + 1 ∧
    ((∀ f ∈ i.affected, f ∉ D.map g.canonical) → i.severity.rank ≤ j.severity.rank) := by
  intro i j
  have htotal : i.total ≤ j.total := total_le h
  have hlt := Impact.rank_lt_iff htotal
  refine ⟨hlt, ?_, fun hkept => ?_⟩
  · have hi := Impact.severity_eq_high (i := i)
    have hj := Impact.severity_eq_low (i := j)
    have haffected : i.affected.length ≤ i.total := by
      rw [Impact.total]
      omega
    cases hs : i.severity <;> cases hs' : j.severity <;>
      simp only [hs, hs', reduceCtorEq, true_iff, Severity.rank] at hi hj ⊢ <;> omega
  · have haffected : i.affected.length ≤ j.affected.length := length_affected_le h hkept
    by_contra hless
    have := hlt.1 (Nat.lt_of_not_le hless)
    omega

/-! ## A class that is lost -/

theorem mem_files_of_needs {f v : Text} (h : g.Needs f v) : f ∈ g.nodes.map (·.file) := by
  obtain ⟨node, hnode, hfile, -⟩ := h
  exact List.mem_map.2 ⟨node, hnode, hfile⟩

/-- Six files that depend on one. -/
def fan : Graph :=
  let top : Graph := { root := Path.canonical "/".toList "proj".toList ['.'] }
  ["u1", "u2", "u3", "u4", "u5", "u6"].foldl (fun g user =>
    g.put user ["core"]) (top.put "core" [])

/-- Whatever else changes, all files are touched when the one changes on which the others
depend. -/
theorem touched_fan (hcore : "/proj/core".toList ∈ C.map fan.canonical)
    (hfiles : C.map fan.canonical ⊆ fan.nodes.map (·.file)) :
    (fan.impact C).touched.Perm (fan.nodes.map (·.file)) := by
  have hnodup : (fan.nodes.map (·.file)).Nodup := by decide
  refine (List.perm_ext_iff_of_nodup (fan.nodup_touched C) hnodup).2 fun f => ?_
  rw [mem_touched]
  constructor
  · rintro ⟨c, hc, hpath⟩
    rcases hpath.cases_head with rfl | ⟨v, hneeds, -⟩
    · exact hfiles hc
    · exact mem_files_of_needs hneeds
  · intro hf
    have husers : ∀ f ∈ fan.nodes.map (·.file), f = "/proj/core".toList ∨
        (f, fan.canonical "/proj/core".toList) ∈ fan.edges := by decide
    refine ⟨_, hcore, ?_⟩
    rcases husers f hf with rfl | hedge
    · exact .refl
    · exact .single (dependsOn_iff.2 hedge)

theorem dependencies_fan (C : List Text) : (fan.impact C).dependencies.length ≤ 1 := by
  have hcore : ∀ d ∈ (fan.impact C).dependencies, d = "/proj/core".toList := by
    intro d hd
    obtain ⟨v, -, hedge⟩ := mem_dependencies_impact.1 hd
    have hedges : ∀ e ∈ fan.edges, e.2 = "/proj/core".toList := by decide
    exact hedges (v, d) (mem_edges_of_mem_edgesOf hedge)
  have hsub : (fan.impact C).dependencies ⊆ ["/proj/core".toList] := fun d hd =>
    List.mem_singleton.2 (hcore d hd)
  exact (List.subperm_of_subset (fan.nodup_dependencies C) hsub).length_le

theorem counts_fan (hcore : "/proj/core".toList ∈ C.map fan.canonical)
    (hfiles : C.map fan.canonical ⊆ fan.nodes.map (·.file)) :
    (fan.impact C).changed.length + (fan.impact C).affected.length = 7 := by
  rw [← List.length_append, ← Impact.touched, (touched_fan hcore hfiles).length_eq]
  decide

/-- When one of the six files changes too, there are five affected files and not six, and
the class falls from medium to low. -/
theorem lost_class_of_fan :
    ["core".toList].map fan.canonical ⊆ ["core".toList, "u1".toList].map fan.canonical ∧
      (fan.impact ["core".toList]).severity = .medium ∧
      (fan.impact ["core".toList, "u1".toList]).severity = .low := by
  have hcount := counts_fan (C := ["core".toList]) (by decide) (by decide)
  have hcount' := counts_fan (C := ["core".toList, "u1".toList]) (by decide)
    (by decide)
  have hchanged : (fan.impact ["core".toList]).changed.length = 1 := by decide
  have hchanged' : (fan.impact ["core".toList, "u1".toList]).changed.length = 2 := by
    decide
  have hdependencies := dependencies_fan ["core".toList]
  have hdependencies' := dependencies_fan ["core".toList, "u1".toList]
  refine ⟨by decide, ?_, Impact.severity_eq_low.2 ?_⟩
  · have hlow := (Impact.severity_eq_low (i := fan.impact ["core".toList])).1
    have hhigh := (Impact.severity_eq_high (i := fan.impact ["core".toList])).1
    rw [Impact.total] at hlow hhigh
    cases hs : (fan.impact ["core".toList]).severity with
    | low => have := hlow hs; omega
    | medium => rfl
    | high => have := hhigh hs; omega
  · rw [Impact.total]
    omega

/-- It falls by one class; and it stays when the other change is of a file that is not
affected. -/
theorem larger_changes_of_fan :
    ["core".toList].map fan.canonical ⊆ ["core".toList, "u1".toList].map fan.canonical ∧
      (fan.impact ["core".toList]).severity.rank ≤
        (fan.impact ["core".toList, "u1".toList]).severity.rank + 1 ∧
      ["core".toList].map fan.canonical ⊆
        ["core".toList, "gone".toList].map fan.canonical ∧
      (∀ f ∈ (fan.impact ["core".toList]).affected,
        f ∉ ["core".toList, "gone".toList].map fan.canonical) ∧
      (fan.impact ["core".toList]).severity.rank ≤
        (fan.impact ["core".toList, "gone".toList]).severity.rank := by
  have hsub : ["core".toList].map fan.canonical ⊆
      ["core".toList, "u1".toList].map fan.canonical := by
    decide
  have hsub' : ["core".toList].map fan.canonical ⊆
      ["core".toList, "gone".toList].map fan.canonical := by decide
  have htouched := touched_fan (C := ["core".toList]) (by decide) (by decide)
  have hkept : ∀ f ∈ (fan.impact ["core".toList]).affected,
      f ∉ ["core".toList, "gone".toList].map fan.canonical := by
    intro f hf hchanged
    obtain ⟨hmem, hnot⟩ := mem_affected_impact.1 hf
    have hothers : ∀ f ∈ fan.nodes.map (·.file),
        f ∈ ["core".toList, "gone".toList].map fan.canonical →
          f ∈ ["core".toList].map fan.canonical := by decide
    exact hnot (hothers f (htouched.mem_iff.1 hmem) hchanged)
  obtain ⟨-, hone, -⟩ := severity_of_larger_change hsub
  obtain ⟨-, -, hsame⟩ := severity_of_larger_change hsub'
  exact ⟨hsub, hone, hsub', hkept, hsame hkept⟩

end Graph

end ImpactGraph
