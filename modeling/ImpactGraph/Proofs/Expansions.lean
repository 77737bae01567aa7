import Mathlib.Data.List.Infix
import Mathlib.Data.List.MinMax
import Mathlib.Order.Nat
import ImpactGraph.Proofs.Answers
import ImpactGraph.Rules.Rust
import ImpactGraph.Text.Lemmas

/-!
# Expansions and the calls they take

An expansion comes to an end on a stack of so many calls or goes too deep. Which of the
two happens is a matter of the text alone: `depth` is the number of calls that are open at
once, and `expand` is the expansion that is given as many as it needs. A stack that holds
`depth` calls gives what `expand` gives, a smaller one gives nothing, and no group is ever
cut at a closing brace that it does not have (`expandWithin_eq`). So what is known of the
paths is proved of `expand`, and what is known of the stack of `depth`.

An entry that is entered as a group leaves an opening brace behind, and neither making its
blanks plain nor taking it apart adds any (`count_open_lt`). That ends the recursion, on
texts that are no use trees too, and bounds the depth.
-/

namespace ImpactGraph.Rules

namespace UseTree

open Text

/-- The prefix and the inside of a group: what stands before the first opening brace, and
what stands between it and the last closing one; none when it does not close. -/
def openGroup? (entry : Text) : Option (Text × Option Text) :=
  (cut ['{'] entry).map fun parts =>
    (strip parts.1,
      if parts.2.count '}' < parts.2.count '{' + 1 then none
      else (cutLast ['}'] parts.2).map (·.1))

section Counts

variable {c : Char} {t entry head inside rest : Text}

/-! ## Braces of an entry -/

theorem count_piece_le (c : Char) (t : Text) :
    ∀ depth, ∀ piece ∈ splitAtDepth depth t, piece.count c ≤ t.count c := by
  induction t with
  | nil => intro depth piece h; simp [splitAtDepth] at h; simp [h]
  | cons d rest ih =>
    intro depth piece h
    simp only [splitAtDepth] at h
    split at h
    · rcases List.mem_cons.1 h with rfl | h
      · simp
      · exact Nat.le_trans (ih _ _ h) List.count_le_count_cons
    · split at h
      · rename_i e
        simp only [List.mem_singleton] at h
        subst h
        exact List.Sublist.count_le c (by simp)
      · rename_i first others e
        rcases List.mem_cons.1 h with rfl | h
        · have := ih (depthAfter depth d) first (by rw [e]; exact List.mem_cons_self)
          simp only [List.count_cons]
          omega
        · exact Nat.le_trans (ih _ _ (by rw [e]; exact List.mem_cons_of_mem _ h))
            List.count_le_count_cons

theorem count_entry_le (c : Char) (t entry : Text) (h : entry ∈ entries t) :
    entry.count c ≤ t.count c := by
  simp only [entries, List.mem_filter, List.mem_map] at h
  obtain ⟨⟨piece, hp, rfl⟩, _⟩ := h
  exact Nat.le_trans ((trimWhile_sublist _ piece).count_le c)
    (count_piece_le c t 0 piece hp)

theorem count_singleSpaced_le (h : c ≠ ' ') (t : Text) :
    (singleSpaced t).count c ≤ t.count c := by
  rw [singleSpaced, count_join_single ' ' c h]
  exact count_fields_le c isBlank t

theorem exists_of_openGroup? (h : openGroup? entry = some (head, some inside)) :
    ∃ front rear, entry = front ++ '{' :: (inside ++ '}' :: rear) := by
  obtain ⟨parts, hparts, e⟩ := Option.map_eq_some_iff.1 h
  have hentry := cut_eq_some (a := parts.1) (b := parts.2) hparts
  simp only [Prod.mk.injEq] at e
  obtain ⟨-, e⟩ := e
  split at e
  · simp at e
  · obtain ⟨last, hlast, rfl⟩ := Option.map_eq_some_iff.1 e
    have hrest := cutLast_eq_some (a := last.1) (b := last.2) hlast
    exact ⟨parts.1, last.2, by simpa [hrest] using hentry⟩

theorem count_open_lt (h : openGroup? entry = some (head, some inside)) :
    inside.count '{' < entry.count '{' := by
  obtain ⟨front, rear, rfl⟩ := exists_of_openGroup? h
  simp only [List.count_append, List.count_cons_self]
  omega

theorem count_open_lt_of_mem (hmem : entry ∈ entries (singleSpaced t))
    (h : openGroup? entry = some (head, some inside)) : inside.count '{' < t.count '{' :=
  Nat.lt_of_lt_of_le (count_open_lt h)
    (Nat.le_trans (count_entry_le _ _ _ hmem) (count_singleSpaced_le (by decide) t))

/-- Where braces close more often than they open, one of them closes. -/
theorem exists_cutLast (h : ¬ rest.count '}' < rest.count '{' + 1) :
    ∃ inside rear, cutLast ['}'] rest = some (inside, rear) := by
  have hmem : '}' ∈ rest.reverse := List.mem_reverse.2 (List.count_pos_iff.1 (by omega))
  obtain ⟨parts, hparts⟩ := Option.isSome_iff_exists.1
    (isSome_cut.2 ((List.singleton_infix_iff _ _).2 hmem))
  exact ⟨parts.2.reverse, parts.1.reverse, by
    rw [cutLast, List.reverse_singleton, hparts]; rfl⟩

end Counts

/-! ## The expansion with as many calls as it needs -/

/-- The paths of the leaves of a list of use trees, each after the prefix of its group. -/
def expand (tree above : Text) : List Text :=
  (entries (singleSpaced tree)).attach.flatMap fun ⟨entry, _hmem⟩ =>
    match _h : openGroup? entry with
    | none => [dropSelf (above ++ entry)]
    | some (_, none) => []
    | some (head, some inside) => expand inside (above ++ head)
termination_by tree.count '{'
decreasing_by exact count_open_lt_of_mem _hmem _h

/-- What becomes of one entry of a list. -/
def expandEntry (above entry : Text) : List Text :=
  match openGroup? entry with
  | none => [dropSelf (above ++ entry)]
  | some (_, none) => []
  | some (head, some inside) => expand inside (above ++ head)

theorem expand_eq (tree above : Text) :
    expand tree above = (entries (singleSpaced tree)).flatMap (expandEntry above) := by
  have hattach : (entries (singleSpaced tree)).attach.flatMap
      (fun entry => expandEntry above entry.1) =
        (entries (singleSpaced tree)).flatMap (expandEntry above) := by
    rw [← List.flatMap_map, List.attach_map_subtype_val]
  rw [← hattach, expand]
  refine List.flatMap_congr fun entry _ => ?_
  simp only [expandEntry]
  split <;> rename_i h <;> simp only [h]

/-- How many calls are open at once when a text is expanded. -/
def depth (tree : Text) : Nat :=
  ((entries (singleSpaced tree)).attach.map fun ⟨entry, _hmem⟩ =>
    match _h : openGroup? entry with
    | some (_, some inside) => depth inside
    | _ => 0).foldr max 0 + 1
termination_by tree.count '{'
decreasing_by exact count_open_lt_of_mem _hmem _h

/-- How many of them one entry of a list takes. -/
def depthInside (entry : Text) : Nat :=
  match openGroup? entry with
  | some (_, some inside) => depth inside
  | _ => 0

theorem depth_eq (tree : Text) :
    depth tree = ((entries (singleSpaced tree)).map depthInside).foldr max 0 + 1 := by
  have hattach : (entries (singleSpaced tree)).attach.map (fun entry =>
      depthInside entry.1) = (entries (singleSpaced tree)).map depthInside := by
    rw [List.attach_map_val]
  rw [← hattach, depth]
  congr 2
  refine List.map_congr_left fun entry _ => ?_
  simp only [depthInside]
  split <;> rename_i h <;> simp only [h]

theorem depth_le_iff {tree : Text} {limit : Nat} :
    depth tree ≤ limit + 1 ↔ ∀ entry ∈ entries (singleSpaced tree),
      depthInside entry ≤ limit := by
  rw [depth_eq, Nat.add_le_add_iff_right]
  constructor
  · intro h entry hmem
    exact Nat.le_trans (List.le_max_of_le (List.mem_map_of_mem hmem) (Nat.le_refl _)) h
  · intro h
    exact List.max_le_of_forall_le _ _ (List.forall_mem_map.2 h)

theorem depth_le (tree : Text) : depth tree ≤ tree.count '{' + 1 := by
  induction tree using depth.induct with
  | case1 tree ih =>
      refine depth_le_iff.2 fun entry hmem => ?_
      rw [depthInside]
      split
      case h_1 head inside hgroup =>
        exact Nat.le_trans (ih entry hmem head inside hgroup)
          (count_open_lt_of_mem hmem hgroup)
      case h_2 => exact Nat.zero_le _

/-! ## The expansion on a stack -/

theorem entryWith_eq {inner : Text → Text → Except Fault (List Text)} {limit : Nat}
    (h : ∀ inside above, inner inside above =
      if depth inside ≤ limit then .ok (expand inside above) else .error .tooDeep)
    (above entry : Text) :
    entryWith inner above entry =
      if depthInside entry ≤ limit then .ok (expandEntry above entry) else
        .error .tooDeep := by
  cases hcut : cut ['{'] entry with
  | none => simp only [entryWith, depthInside, expandEntry, openGroup?, hcut,
      Option.map_none, Nat.zero_le, if_true]
  | some parts =>
      by_cases hopen : parts.2.count '}' < parts.2.count '{' + 1
      · simp only [entryWith, depthInside, expandEntry, openGroup?, hcut, Option.map_some,
          if_pos hopen, Nat.zero_le, if_true]
      · obtain ⟨inside, rear, hlast⟩ := exists_cutLast hopen
        simp only [entryWith, depthInside, expandEntry, openGroup?, hcut, Option.map_some,
          if_neg hopen, hlast, h]

/-- A stack that holds the calls a text takes gives its paths; a smaller one goes too
deep. -/
theorem expandWithin_eq (limit : Nat) (tree above : Text) :
    expandWithin limit tree above =
      if depth tree ≤ limit then .ok (expand tree above) else .error .tooDeep := by
  induction limit generalizing tree above with
  | zero => rw [depth_eq, if_neg (Nat.not_succ_le_zero _)]; rfl
  | succ limit ih =>
      rw [expandWithin, mapM_eq_ite fun entry _ => entryWith_eq ih above entry, expand_eq]
      simp only [depth_le_iff]
      split <;> rfl

end UseTree

/-! ## Texts of Rust -/

namespace Rust

/-- What the passes find in a text when all its use trees are expanded. -/
def allFindings (w : Workspace) (root file content : Text) : List Finding :=
  (moduleDeclaration.findAll content).flatMap (fun m =>
    moduleFindings w file (m.part .name) (lineAt content m.start)) ++
  (useDeclaration.findAll content).flatMap (fun m =>
    (UseTree.expand (m.part .clause) []).flatMap fun entry =>
      useFindings w root file entry (lineAt content m.start)) ++
  (publicItem.findAll content).map fun m => .exports (m.part .name)

/-- A use declaration of a text takes more calls than a stack holds. -/
def NestsBeyond (stack : Nat) (content : Text) : Prop :=
  ∃ m ∈ useDeclaration.findAll content, stack < UseTree.depth (m.part .clause)

instance (stack : Nat) (content : Text) : Decidable (NestsBeyond stack content) :=
  inferInstanceAs (Decidable (∃ m ∈ useDeclaration.findAll content, _))

variable {w : Workspace} {root file content : Text} {found : List Finding}

theorem findings_eq (w : Workspace) (root file content : Text) :
    findings w root file content =
      if NestsBeyond w.stack content then .error .tooDeep
      else .ok (allFindings w root file content) := by
  have huse (m : Match) :
      ((UseTree.expandWithin w.stack (m.part .clause) []).map fun entries =>
        entries.flatMap fun entry =>
          useFindings w root file entry (lineAt content m.start)) =
      if UseTree.depth (m.part .clause) ≤ w.stack then
        .ok ((UseTree.expand (m.part .clause) []).flatMap fun entry =>
          useFindings w root file entry (lineAt content m.start))
      else .error .tooDeep := by
    rw [UseTree.expandWithin_eq]
    split <;> rfl
  have hall : (∀ m ∈ useDeclaration.findAll content,
      UseTree.depth (m.part .clause) ≤ w.stack) ↔ ¬ NestsBeyond w.stack content := by
    simp [NestsBeyond]
  rw [findings, declaredUses, mapM_eq_ite fun m _ => huse m]
  by_cases hbeyond : NestsBeyond w.stack content
  · rw [if_neg fun h => hall.1 h hbeyond, if_pos hbeyond]
    rfl
  · rw [if_pos (hall.2 hbeyond), if_neg hbeyond, allFindings, List.flatMap_def]
    rfl

theorem eq_allFindings (h : findings w root file content = .ok found) :
    found = allFindings w root file content := by
  rw [findings_eq] at h
  split at h
  · exact absurd h nofun
  · exact (Except.ok.inj h).symm

end Rust

end ImpactGraph.Rules
