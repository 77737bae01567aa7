import ImpactGraph.Proofs.UseTrees

/-!
# How deep a use tree is expanded, and into how many paths

A text that is no use tree is expanded too: its braces may close before they open, or
never, and the depth at which commas are looked at falls below zero. The bounds here hold
of every text, since they follow the counts of characters and not the grammar. An entry
that is entered as a group leaves an opening brace behind, which bounds the calls that are
open at once (`depth_le`). Every piece of a text but the first costs a comma
(`size_splitAtDepth`), which bounds the paths.

The bound on the calls cannot be lowered: groups that hold nothing but one another take a
call for each of their opening braces and one more.
-/

namespace ImpactGraph.Rules.UseTree

open Text

section Limits

variable {tree above entry head inside t : Text}

/-! ## The number of paths -/

theorem count_inside_le (c : Char) (h : openGroup? entry = some (head, some inside)) :
    inside.count c ≤ entry.count c := by
  obtain ⟨front, rear, rfl⟩ := exists_of_openGroup? h
  exact List.IsInfix.count_le c ⟨front ++ ['{'], '}' :: rear, by simp⟩

/-- Each comma of a text is still in one of its pieces or stands between two of them, at
whatever depth the text begins. -/
theorem size_splitAtDepth (depth : Int) (t : Text) :
    (splitAtDepth depth t).flatten.count ',' + (splitAtDepth depth t).length =
      t.count ',' + 1 := by
  induction t generalizing depth with
  | nil => rfl
  | cons c t ih =>
      have hrest := ih (depthAfter depth c)
      simp only [splitAtDepth]
      split
      case isTrue hcomma =>
        obtain ⟨rfl, -⟩ : c = ',' ∧ depthAfter depth c = 0 := by simpa using hcomma
        simp only [List.flatten_cons, List.nil_append, List.length_cons,
          List.count_cons_self]
        omega
      case isFalse =>
        -- the character belongs to the first piece, so that a comma at another depth is
        -- counted there
        cases hpieces : splitAtDepth (depthAfter depth c) t with
        | nil => exact absurd hpieces (splitAtDepth_ne_nil _ _)
        | cons piece pieces =>
            rw [hpieces] at hrest
            simp only [List.flatten_cons, List.cons_append, List.length_cons,
              List.count_cons] at hrest ⊢
            omega

/-- Trimming the pieces and leaving the empty ones out makes them no more, and no
commas. -/
theorem size_trimmed_le (pieces : List Text) :
    ((pieces.map strip).filter (· ≠ [])).flatten.count ',' +
      ((pieces.map strip).filter (· ≠ [])).length ≤
      pieces.flatten.count ',' + pieces.length := by
  induction pieces with
  | nil => exact Nat.le_refl _
  | cons piece pieces ih =>
      have hstrip : (strip piece).count ',' ≤ piece.count ',' :=
        (trimWhile_sublist _ piece).count_le ','
      rw [List.map_cons, List.filter_cons]
      split
      case isTrue =>
        simp only [List.flatten_cons, List.count_append, List.length_cons]
        omega
      case isFalse =>
        simp only [List.flatten_cons, List.count_append, List.length_cons]
        omega

theorem size_entries_le (t : Text) :
    (entries t).flatten.count ',' + (entries t).length ≤ t.count ',' + 1 :=
  Nat.le_trans (size_trimmed_le _) (Nat.le_of_eq (size_splitAtDepth 0 t))

theorem length_flatMap_le {f : Text → List Text} {texts : List Text}
    (h : ∀ t ∈ texts, (f t).length ≤ t.count ',' + 1) :
    (texts.flatMap f).length ≤ texts.flatten.count ',' + texts.length := by
  induction texts with
  | nil => exact Nat.le_refl _
  | cons t texts ih =>
      obtain ⟨ht, htexts⟩ := List.forall_mem_cons.1 h
      have hrest := ih htexts
      simp only [List.flatMap_cons, List.length_append, List.flatten_cons,
        List.count_append, List.length_cons]
      omega

theorem length_expand_le (tree above : Text) :
    (expand tree above).length ≤ tree.count ',' + 1 := by
  induction tree, above using expand.induct with
  | case1 tree above ih =>
      have hentry : ∀ entry ∈ entries (singleSpaced tree),
          (expandEntry above entry).length ≤ entry.count ',' + 1 := by
        intro entry hmem
        rw [expandEntry]
        split
        case h_1 => simp
        case h_2 => exact Nat.zero_le _
        case h_3 head inside hgroup =>
          exact Nat.le_trans (ih entry hmem head inside hgroup)
            (Nat.succ_le_succ (count_inside_le ',' hgroup))
      calc (expand tree above).length
          = ((entries (singleSpaced tree)).flatMap (expandEntry above)).length := by
            rw [expand_eq]
        _ ≤ (entries (singleSpaced tree)).flatten.count ',' +
          (entries (singleSpaced tree)).length :=
            length_flatMap_le hentry
        _ ≤ (singleSpaced tree).count ',' + 1 := size_entries_le _
        _ ≤ tree.count ',' + 1 :=
          Nat.succ_le_succ (count_singleSpaced_le (by decide) tree)

/-! ## Both bounds -/

/-- Any text is expanded on a stack of one call more than it has opening braces. On a
smaller one the expansion may go too deep, but on none does it enter a group without a
closing brace to cut it at. There is at most one path more than the text has commas. -/
theorem expand_bounded (tree above : Text) :
    expandWithin (tree.count '{' + 1) tree above = .ok (expand tree above) ∧
      (∀ limit, expandWithin limit tree above = .ok (expand tree above) ∨
        expandWithin limit tree above = .error .tooDeep) ∧
      (expand tree above).length ≤ tree.count ',' + 1 := by
  refine ⟨?_, fun limit => ?_, length_expand_le tree above⟩
  · rw [expandWithin_eq, if_pos (depth_le tree)]
  · rw [expandWithin_eq]
    split
    · exact .inl rfl
    · exact .inr rfl

/-- Behind a brace that closes nothing a group stands at depth zero. Its comma separates,
and the half that opens it is dropped. -/
example : (expandWithin 1 ['}', '{', 'a', ',', 'b', '}'] "p::".toList).toOption =
    some [['p', ':', ':', 'b', '}']] := by
  decide

/-! ## Groups inside one another -/

/-- So many groups, each of which is all that the one around it holds. -/
def nestedGroups : Nat → Text
  | 0 => []
  | n + 1 => '{' :: nestedGroups n ++ ['}']

theorem count_nestedGroups (n : Nat) : (nestedGroups n).count '{' = n := by
  induction n with
  | zero => rfl
  | succ n ih => simp [nestedGroups, ih]

/-- The trees that so many groups inside one another are. -/
def nestedTrees : Nat → List Tree
  | 0 => []
  | n + 1 => [.group [] (nestedTrees n)]

theorem written_nestedGroups {n : Nat} (h : Lists (nestedTrees n) (nestedGroups n)) :
    Written (.group [] (nestedTrees n)) (nestedGroups (n + 1)) :=
  @Written.group [] (nestedTrees n) [] (nestedGroups n) (List.forall_mem_nil _)
    (List.forall_mem_nil _) (fun _ => rfl) h

theorem lists_nestedGroups (n : Nat) : Lists (nestedTrees n) (nestedGroups n) := by
  induction n with
  | zero => exact .none (List.forall_mem_nil _)
  | succ n ih => exact lists_singleton (written_nestedGroups ih)

theorem nestingOf_nestedTrees (n : Nat) : Tree.nestingOf (nestedTrees n) = n := by
  induction n with
  | zero => rfl
  | succ n ih =>
      rw [nestedTrees, Tree.nestingOf, Tree.nesting, ih, Tree.nestingOf, Nat.max_zero]

theorem namesOf_nestedTrees (n : Nat) : Tree.namesOf (nestedTrees n) = [] := by
  induction n with
  | zero => rfl
  | succ n ih => rw [nestedTrees, Tree.namesOf, Tree.names, ih, Tree.namesOf,
      List.nil_append, List.nil_append]

theorem depth_nestedGroups (n : Nat) : depth (nestedGroups n) = n + 1 := by
  rw [(lists_nestedGroups n).depth_eq, nestingOf_nestedTrees]

/-- The bound on the depth is reached: however many opening braces there are, a stack of
as many calls can be too small. -/
theorem tooDeep_of_nestedGroups (n : Nat) (above : Text) :
    expandWithin ((nestedGroups n).count '{') (nestedGroups n) above =
      .error .tooDeep := by
  rw [count_nestedGroups, expandWithin_eq, depth_nestedGroups,
    if_neg (Nat.not_succ_le_self n)]

end Limits

end ImpactGraph.Rules.UseTree
