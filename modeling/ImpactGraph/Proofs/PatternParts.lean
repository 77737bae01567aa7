import Mathlib.Data.List.Induction
import ImpactGraph.Proofs.PatternPlaces

/-!
# Where matches and their parts stand

A search reports a match by where it starts, and a kept part by where that part starts.
Both are places in the text that was searched: the text falls into what is in front of the
match, the match, and the rest, and the match into what comes before the part, the part,
and what comes behind.

Matches come in order and do not overlap. So a search passes over a place from which the
pattern leads somewhere only when an earlier match covers it, and that is all that has to
be excluded to know that every such place is found.
-/

namespace ImpactGraph.Pattern

variable {p q pre : Pattern} {posts : List Pattern} {slot : Slot}
  {c d : Cursor} {m : Match} {before : Option Char} {offset wait : Nat} {t u v : Text}

/-! ## Matches in a text -/

/-- A match is found at a place of the text, behind what an earlier match holds back. -/
theorem exists_place_of_mem_findFrom (h : m ∈ p.findFrom before offset wait t) :
    ∃ u v, t = u ++ v ∧
      p.matchAt ⟨u.getLast?.or before, offset + u.length, v, []⟩ = some m ∧
      wait ≤ u.length := by
  induction t generalizing before offset wait with
  | nil =>
      rw [findFrom] at h
      split at h
      · next hwait => exact ⟨[], [], rfl, Option.mem_toList.1 h, Nat.le_of_eq hwait⟩
      · exact absurd h List.not_mem_nil
  | cons x t ih =>
      have hnext {wait : Nat} (h : m ∈ p.findFrom (some x) (offset + 1) wait t) :
          ∃ u v, x :: t = u ++ v ∧
            p.matchAt ⟨u.getLast?.or before, offset + u.length, v, []⟩ = some m ∧
            wait + 1 ≤ u.length := by
        obtain ⟨u, v, rfl, hm, hwait⟩ := ih h
        refine ⟨x :: u, v, rfl, ?_, Nat.succ_le_succ hwait⟩
        rw [getLast?_cons_or, List.length_cons, Nat.add_comm u.length, ← Nat.add_assoc]
        exact hm
      have hlater {wait : Nat} (h : m ∈ p.findFrom (some x) (offset + 1) wait t) :
          ∃ u v, x :: t = u ++ v ∧
            p.matchAt ⟨u.getLast?.or before, offset + u.length, v, []⟩ = some m ∧
            0 ≤ u.length := by
        obtain ⟨u, v, ht, hm, -⟩ := hnext h
        exact ⟨u, v, ht, hm, Nat.zero_le _⟩
      cases wait with
      | succ wait => exact hnext h
      | zero =>
          rw [findFrom] at h
          split at h
          · next n hn =>
              rcases List.mem_cons.1 h with rfl | h
              · exact ⟨[], x :: t, rfl, hn, Nat.le_refl 0⟩
              · exact hlater h
          · exact hlater h

theorem exists_place_of_mem_findAll (h : m ∈ p.findAll t) :
    ∃ u v, t = u ++ v ∧ p.matchAt ((Cursor.ofText t).past u v) = some m := by
  obtain ⟨u, v, ht, hm, -⟩ := exists_place_of_mem_findFrom h
  exact ⟨u, v, ht, hm⟩

/-- Matches come in order, and each starts where the one before it has ended or later. -/
theorem pairwise_findFrom (p : Pattern) (before : Option Char)
    (offset wait : Nat) (t : Text) :
    (p.findFrom before offset wait t).Pairwise fun m n =>
      m.start + m.text.length ≤ n.start := by
  induction t generalizing before offset wait with
  | nil =>
      rw [findFrom]
      split
      · cases p.matchAt ⟨before, offset, [], []⟩ with
        | none => exact .nil
        | some m => exact List.pairwise_singleton _ m
      · exact .nil
  | cons x t ih =>
      cases wait with
      | succ wait => exact ih (some x) (offset + 1) wait
      | zero =>
          rw [findFrom]
          split
          · next m hm =>
              refine List.pairwise_cons.2 ⟨fun n hn => ?_, ih _ _ _⟩
              obtain ⟨u, v, -, hplace, hwait⟩ := exists_place_of_mem_findFrom hn
              have hfirst : m.start = offset := start_of_matchAt hm
              have hsecond : n.start = offset + 1 + u.length := start_of_matchAt hplace
              omega
          · exact ih _ _ _

theorem pairwise_findAll (p : Pattern) (t : Text) :
    (p.findAll t).Pairwise fun m n => m.start + m.text.length ≤ n.start :=
  pairwise_findFrom p none 0 0 t

/-- A search passes over a place from which the pattern leads somewhere only inside an
earlier match. -/
theorem mem_findFrom_or_covered
    (hm : p.matchAt ⟨u.getLast?.or before, offset + u.length, v, []⟩ = some m) :
    u.length < wait ∨ m ∈ p.findFrom before offset wait (u ++ v) ∨
      ∃ n ∈ p.findFrom before offset wait (u ++ v),
        n.start < offset + u.length ∧ offset + u.length < n.start + n.text.length := by
  induction u generalizing before offset wait with
  | nil =>
      cases wait with
      | succ wait => exact .inl (Nat.succ_pos wait)
      | zero =>
          refine .inr (.inl ?_)
          have hhere : p.matchAt ⟨before, offset, v, []⟩ = some m := hm
          rw [List.nil_append]
          cases v with
          | nil => rw [findFrom, if_pos rfl, hhere]; exact List.mem_singleton_self m
          | cons x v => rw [findFrom]; simp only [hhere]; exact List.mem_cons_self
  | cons x u ih =>
      rw [getLast?_cons_or, List.length_cons, Nat.add_comm u.length,
        ← Nat.add_assoc] at hm
      have hlength : (x :: u).length = u.length + 1 := rfl
      have hplace : offset + (x :: u).length = offset + 1 + u.length := by omega
      rw [hplace, hlength, List.cons_append]
      cases wait with
      | succ wait => exact (ih hm).imp_left Nat.succ_lt_succ
      | zero =>
          refine .inr ?_
          rw [findFrom]
          cases hn : p.matchAt ⟨before, offset, x :: (u ++ v), []⟩ with
          | none =>
              exact (@ih (some x) (offset + 1) 0 hm).resolve_left (Nat.not_lt_zero _)
          | some n =>
              have hstart : n.start = offset := start_of_matchAt hn
              rcases @ih (some x) (offset + 1) (n.text.length - 1) hm with hinside |
                hmem | ⟨k, hk, hcovers⟩
              · exact .inr ⟨n, List.mem_cons_self, by omega, by omega⟩
              · exact .inl (List.mem_cons_of_mem n hmem)
              · exact .inr ⟨k, List.mem_cons_of_mem n hk, hcovers⟩

theorem mem_findAll_or_covered (hm : p.matchAt ((Cursor.ofText t).past u v) = some m)
    (ht : t = u ++ v) :
    m ∈ p.findAll t ∨ ∃ n ∈ p.findAll t, n.start < u.length ∧
      u.length < n.start + n.text.length := by
  have hfound := @mem_findFrom_or_covered p m none 0 0 u v hm
  rw [← ht, Nat.zero_add] at hfound
  exact hfound.resolve_left (Nat.not_lt_zero _)

/-! ## Parts of a match -/

/-- What a way through a pattern kept, where the parts of the pattern behind keep nothing
in the slot. -/
theorem exists_kept_of_mem_ends (hposts : ∀ post ∈ posts, post.Keeps slot fun _ => False)
    (h : d ∈ (posts.foldl append (pre ++ keep slot q)).ends c) :
    ∃ e ∈ pre.ends c, ∃ f ∈ q.ends e, (∃ b, f.Spans d b) ∧
      d.kept? slot = some ⟨e.offset, e.rest, f.offset - e.offset⟩ := by
  induction posts using List.reverseRecOn generalizing d with
  | nil =>
      obtain ⟨e, he, hd⟩ := mem_ends_append.1 h
      obtain ⟨f, hf, rfl⟩ := List.mem_map.1 hd
      exact ⟨e, he, f, hf, ⟨[], rfl, rfl⟩, List.lookup_cons_self⟩
  | append_singleton posts post ih =>
      rw [List.foldl_append] at h
      obtain ⟨g, hg, hd⟩ := mem_ends_append.1 h
      obtain ⟨e, he, f, hf, ⟨b, hb⟩, hkept⟩ :=
        ih (fun p hp => hposts p (List.mem_append_left _ hp)) hg
      obtain ⟨s, hs, -⟩ := takes_of_mem_ends hd
      have hpost := hposts post (List.mem_append_right _ List.mem_cons_self)
      exact ⟨e, he, f, hf, ⟨b ++ s, hb.trans hs⟩,
        (kept?_of_mem_ends hpost hd).trans hkept⟩

/-- A match falls into what comes before a kept part, the part, and what comes behind. -/
theorem exists_part_of_mem_findAll
    (hposts : ∀ post ∈ posts, post.Keeps slot fun _ => False)
    (h : m ∈ (posts.foldl append (pre ++ keep slot q)).findAll t) :
    ∃ u a b v, t = u ++ a ++ m.part slot ++ b ++ v ∧ m.start = u.length ∧
      m.startOf slot = (u ++ a).length ∧ m.text = a ++ m.part slot ++ b ∧ pre.Takes a ∧
      q.Takes (m.part slot) := by
  obtain ⟨u, v, rfl, hm⟩ := exists_place_of_mem_findAll h
  obtain ⟨d, hd, hm⟩ := Option.map_eq_some_iff.1 hm
  obtain ⟨e, he, f, hf, ⟨b, hb⟩, hkept⟩ :=
    exists_kept_of_mem_ends hposts (List.mem_of_mem_head? hd)
  obtain ⟨a, ha, hpre⟩ := takes_of_mem_ends he
  obtain ⟨n, hn, hq⟩ := takes_of_mem_ends hf
  have hspan := (ha.trans hn).trans hb
  have hrest : v = a ++ n ++ b ++ d.rest := hspan.1
  have hoffset : e.offset = 0 + u.length + a.length := ha.2
  have hlookup : m.kept.lookup slot = some ⟨e.offset, e.rest, f.offset - e.offset⟩ :=
    hm ▸ hkept
  obtain rfl : m.part slot = n := part_of_lookup hlookup hn
  refine ⟨u, a, b, d.rest, ?_, ?_, ?_, ?_, hpre, hq⟩
  · rw [hrest]
    simp only [List.append_assoc]
  · rw [← hm]
    exact Nat.zero_add _
  · rw [Match.startOf, hlookup, Option.map_some, Option.getD_some, hoffset, Nat.zero_add,
      List.length_append]
  · rw [← Cursor.matchTo_text hspan, ← hm]
    rfl

end ImpactGraph.Pattern
