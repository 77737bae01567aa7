import Mathlib.Data.List.Infix
import ImpactGraph.Scan
import ImpactGraph.Proofs.Fates
import ImpactGraph.Proofs.TreePaths

/-!
# What a scan lists, and in which order

A walk decides about an entry from its own path, and what it gives for a
directory is what it gives below. So both questions about a scan are answered
by induction on the tree, with `Keeps` for the membership and `ListedBefore`
for the order, each seen from the directory that is walked; the step takes a
list of names below an entry to a list that starts with the entry's name.

A build asks about the ids of the list again whether they are excluded. It
cannot come to another answer, because the walk asked about the same ids: what
a walk puts together from an id and names is an id already.
-/

namespace ImpactGraph

open ImpactGraph.Path

/-! ## The order of a walk -/

/-- Below one directory, the files of a directory come before what is in its
subdirectories, and names come in their order. -/
inductive ComesBefore : List Text → List Text → Prop
  | files {a b : Text} (hle : Text.le a b = true) (hne : a ≠ b) : ComesBefore [a] [b]
  | fileFirst {a b c : Text} {cs : List Text} : ComesBefore [a] (b :: c :: cs)
  | directories {a b c d : Text} {cs ds : List Text} (hle :
      Text.le a b = true) (hne : a ≠ b) :
      ComesBefore (a :: c :: cs) (b :: d :: ds)
  | inside {a : Text} {as bs : List Text} (h : ComesBefore as bs) :
      ComesBefore (a :: as) (a :: bs)

/-- Seen from a directory, the names that lead to one path come before those that lead to
another. -/
def ListedBefore (dir p q : Text) : Prop :=
  ∃ as bs, (∀ name ∈ as, IsName name) ∧ (∀ name ∈ bs, IsName name) ∧
    p = joinAll dir as ∧ q = joinAll dir bs ∧ ComesBefore as bs

theorem ListedBefore.up {dir name p q : Text} (hname : IsName name)
    (h : ListedBefore (join dir name) p q) : ListedBefore dir p q := by
  obtain ⟨as, bs, ha, hb, rfl, rfl, hbefore⟩ := h
  exact ⟨name :: as, name :: bs, List.forall_mem_cons.2 ⟨hname, ha⟩,
    List.forall_mem_cons.2 ⟨hname, hb⟩, rfl, rfl, .inside hbefore⟩

/-! ## Walked entries -/

namespace Walked

/-- The files under an entry. -/
def under : Walked → List Text
  | file _ => []
  | directory ids => ids

variable {walked : List (Text × Walked)} {w : Walked} {id : Text}

end Walked

namespace FileTree

variable {rules : ScanRules} {dir name : Text} {tree : FileTree}

end FileTree

/-! ## What a walk keeps -/

/-- Nothing on the way from a directory to a file, and nothing about the file, makes a
walk pass over it. -/
structure ScanRules.Admits (rules : ScanRules) (dir : Text)
    (names : List Text) : Prop where
  visible : ∀ name ∈ names, name.head? ≠ some '.'
  included : ∀ init, init ≠ [] → init <+: names →
    Exclusion.excludes rules.excluded (rules.idOf (joinAll dir init)) = false
  extension : ∀ last ∈ names.getLast?, Text.lower (splitName last).2 ∈ rules.extensions

/-- These names lead from a directory to a file that a walk keeps. -/
structure ScanRules.Keeps (rules : ScanRules) (dir : Text) (tree : FileTree)
    (names : List Text) : Prop where
  ne_nil : names ≠ []
  file : ∃ found, tree.at? names = some found ∧ found.isDirectory = false
  admits : rules.Admits dir names

namespace ScanRules

variable {rules : ScanRules} {dir name : Text} {tree : FileTree} {names : List Text}

end ScanRules

namespace FileTree

variable {rules : ScanRules} {dir id : Text} {tree : FileTree} {names : List Text}

end FileTree

/-! ## Scans -/

section Scan

variable {w : Workspace} {root top path : Text} {settings : AnalyzerSettings}
  {place : Place} {names : List Text}

end Scan

end ImpactGraph
