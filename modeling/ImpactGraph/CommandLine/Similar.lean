import ImpactGraph.Text.Basic

/-!
# Similar names

Two names are similar when enough of them agrees: the longest run that both hold, and then
the same to the left and to the right of it. What agrees counts in both names, and it must
be three fifths of them together.
-/

namespace ImpactGraph.CommandLine

open Text

/-- The length of the common beginning of two texts. -/
def commonLead : Text → Text → Nat
  | a :: as, b :: bs => if a = b then commonLead as bs + 1 else 0
  | _, _ => 0

/-- A run that two texts have in common: where it starts in each, and its length. -/
structure Run where
  left : Nat
  right : Nat
  size : Nat

/-- The longest common run; of several the one that starts first, in the first text before
the second. -/
def longestRun (a b : Text) : Run :=
  (List.range a.length).foldl (fun best i =>
    (List.range b.length).foldl (fun best j =>
      let size := commonLead (a.drop i) (b.drop j)
      if best.size < size then ⟨i, j, size⟩ else best) best) ⟨0, 0, 0⟩

/-- How many characters agree. -/
def agreement (a b : Text) : Nat :=
  let run := longestRun a b
  let before := a.take run.left
  let after := a.drop (run.left + run.size)
  if _h : before.length < a.length ∧ after.length < a.length then
    run.size + agreement before (b.take run.right) +
      agreement after (b.drop (run.right + run.size))
  else 0
termination_by a.length
decreasing_by
  · exact _h.1
  · exact _h.2

/-- Whether enough of two names agrees. -/
def isSimilar (a b : Text) : Bool := 3 * (a.length + b.length) ≤ 10 * agreement a b

/-- Whether the first of two candidates agrees better with a name; of equals, the one
later in order. -/
def isCloser (name a b : Text) : Bool :=
  let left := agreement a name * (b.length + name.length)
  let right := agreement b name * (a.length + name.length)
  right < left || (left = right && le b a)

/-- The three candidates closest to a name that are similar to it, in order. -/
def similar (candidates : List Text) (name : Text) : List Text :=
  sort (((candidates.filter (isSimilar · name)).mergeSort (isCloser name)).take 3)

end ImpactGraph.CommandLine
