import ImpactGraph.Graph.Basic
import ImpactGraph.Value

/-!
# Impact of a change

Which files a change can affect: those from which a changed file can be reached along
edges. They are found breadth first from the changed files, level by level and in
code-point order below one file. What each of them depends on is listed beside it, one
step deep, and the three lists give the size class of the change.
-/

namespace ImpactGraph

/-- The size class of a change, by what there is to review. -/
inductive Severity where
  | low
  | medium
  | high
  deriving DecidableEq, Repr

namespace Severity

/-- The word for a size class. -/
def name : Severity → Text
  | low => "low".toList
  | medium => "medium".toList
  | high => "high".toList

/-- The size class of a change with so many changed files, affected files and
dependencies. -/
def ofCounts (changed affected dependencies : Int) : Severity :=
  let total := changed + affected + dependencies
  if 20 < total || 10 < affected then high
  else if 10 < total || 5 < affected then medium
  else low

end Severity

/-- A file touched by a change. -/
structure ChangedFile where
  path : Text
  status : Text := "modified".toList
  additions : Int := 0
  deletions : Int := 0

/-- A changed file as a table. -/
def ChangedFile.toValue (c : ChangedFile) : Value :=
  .table [("path".toList, .text c.path), ("status".toList, .text c.status),
    ("additions".toList, .int c.additions), ("deletions".toList, .int c.deletions)]

/-- What a change can affect, and what to review with it. -/
structure Impact where
  changed : List Text
  affected : List Text
  dependencies : List Text
  deriving DecidableEq, Repr

namespace Impact

/-- Every file of the three lists once. -/
def chain (i : Impact) : List Text :=
  Text.distinct (i.changed ++ i.affected ++ i.dependencies)

/-- The size class of a change. -/
def severity (i : Impact) : Severity :=
  .ofCounts i.changed.length i.affected.length i.dependencies.length

/-- The fields of an impact. -/
def fields (i : Impact) : List (Text × Value) :=
  [("changed_files".toList, .texts i.changed),
    ("affected_files".toList, .texts i.affected),
    ("dependency_files".toList, .texts i.dependencies),
    ("impact_chain".toList, .texts i.chain), ("severity".toList, .text i.severity.name),
    ("review_scope".toList, .nat i.chain.length)]

end Impact

/-- Where a walk from changed files stands: the files that wait for their turn, those that
had it, the affected files and the dependencies found so far. -/
structure Walk where
  waiting : List Text
  visited : List Text := []
  affected : List Text := []
  dependencies : List Text := []

/-- The entries of a reverse index whose file a list does not hold. -/
def ReverseIndex.unseen (index : ReverseIndex) (found : List Text) : Nat :=
  (index.flatMap (·.2)).countP (· ∉ found)

theorem ReverseIndex.mem_flatMap_of_mem_sorted {index : ReverseIndex} {target file : Text}
    (h : file ∈ index.sorted target) : file ∈ index.flatMap (·.2) := by
  simp only [sorted, Text.sort, List.mem_mergeSort, filesOf] at h
  cases hl : index.lookup target with
  | none => simp [hl] at h
  | some files =>
    rw [hl, Option.getD_some] at h
    obtain ⟨before, after, e, -⟩ := List.lookup_eq_some_iff.1 hl
    rw [e]
    simp [h]

theorem ReverseIndex.unseen_append_lt {index : ReverseIndex} {found fresh : List Text}
    (hne : fresh ≠ []) (hfresh : ∀ f ∈ fresh, f ∈ index.flatMap (·.2) ∧ f ∉ found) :
    index.unseen (found ++ fresh) < index.unseen found := by
  obtain ⟨f, hf⟩ := List.exists_mem_of_ne_nil fresh hne
  obtain ⟨hmem, hnot⟩ := hfresh f hf
  have hsub : ∀ l : List Text,
      l.countP (· ∉ found ++ fresh) + l.countP (fun x => x ∉ found && x ∈ fresh) =
        l.countP (· ∉ found) := by
    intro l
    induction l with
    | nil => rfl
    | cons x l ih =>
      simp only [List.countP_cons]
      by_cases h1 : x ∈ found <;> by_cases h2 : x ∈ fresh <;>
        simp [h1, h2] at ih ⊢ <;> omega
  have hpos : 0 < (index.flatMap (·.2)).countP (fun x => x ∉ found && x ∈ fresh) :=
    List.countP_pos_iff.2 ⟨f, hmem, by simp [hnot, hf]⟩
  have := hsub (index.flatMap (·.2))
  simp only [unseen]
  omega

namespace Graph

/-- The files that a file depends on, one step deep; none when it was not analysed. -/
def edgesOf (g : Graph) (file : Text) : List Text :=
  ((g.node? file).map (·.edges)).getD []

/-- The files that depend on a file and are new to a walk. -/
def fresh (g : Graph) (index : ReverseIndex) (changed : List Text) (w : Walk)
    (file : Text) : List Text :=
  (index.sorted (g.canonical file)).filter fun dependent =>
    dependent ∉ file :: w.visited && dependent ∉ changed && dependent ∉ w.affected

/-- A walk after a file that was first in line had its turn. -/
def visit (g : Graph) (index : ReverseIndex) (changed : List Text)
    (w : Walk) (file : Text) (waiting : List Text) : Walk :=
  let fresh := g.fresh index changed w file
  { waiting := waiting ++ fresh
    visited := file :: w.visited
    affected := w.affected ++ fresh
    dependencies := (g.edgesOf file).foldl Text.addNew w.dependencies }

/-- One turn of a walk. A file that had its turn is passed over when it waits again. -/
def turn (g : Graph) (index : ReverseIndex) (changed : List Text) (w : Walk) : Walk :=
  match w.waiting with
  | [] => w
  | file :: waiting =>
    if file ∈ w.visited then { w with waiting } else g.visit index changed w file waiting

/-- A turn leaves fewer files unseen, or as many and fewer files that wait. -/
theorem turn_lt (g : Graph) (index : ReverseIndex) (changed : List Text) {w : Walk}
    (h : w.waiting ≠ []) :
    Prod.Lex (· < ·) (· < ·)
      (index.unseen (g.turn index changed w).affected,
        (g.turn index changed w).waiting.length)
      (index.unseen w.affected, w.waiting.length) := by
  obtain ⟨file, waiting, hw⟩ := List.exists_cons_of_ne_nil h
  simp only [turn, hw]
  split
  · exact Prod.Lex.right _ (by simp)
  · by_cases hfresh : g.fresh index changed w file = []
    · simp only [visit, hfresh, List.append_nil]
      exact Prod.Lex.right _ (by simp)
    · apply Prod.Lex.left
      refine ReverseIndex.unseen_append_lt hfresh fun f hf => ?_
      simp only [fresh, List.mem_filter, Bool.and_eq_true, decide_eq_true_eq] at hf
      exact ⟨ReverseIndex.mem_flatMap_of_mem_sorted hf.1, hf.2.2⟩

/-- A walk taken to its end, turn by turn. -/
def walk (g : Graph) (index : ReverseIndex) (changed : List Text) (w : Walk) : Walk :=
  if _h : w.waiting = [] then w else g.walk index changed (g.turn index changed w)
termination_by (index.unseen w.affected, w.waiting.length)
decreasing_by exact g.turn_lt index changed _h

/-- What a change of files, in any spelling, can affect. -/
def impact (g : Graph) (changes : List Text) : Impact :=
  let changed := Text.distinct (changes.map g.canonical)
  let w := g.walk g.index changed { waiting := changed }
  { changed, affected := w.affected, dependencies := w.dependencies }

end Graph

end ImpactGraph
