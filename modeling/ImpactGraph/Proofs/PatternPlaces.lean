import Mathlib.Data.List.Basic
import ImpactGraph.Proofs.PatternSearch

/-!
# Matches further on

What a pattern finds in a text it finds as well where the text stands behind another, on a
line of its own. The places are further on by the length of what comes before, and the
character before the first of them is a line break where there was none; otherwise a
search takes the same way. Only a condition on the character before could tell the
difference, and no pattern but one asks for more than whether it is a letter or a line
break.

What is in front matters all the same, for a match that begins there may end behind it.
The search then goes on from where that match ends.
-/

namespace ImpactGraph

/-! ## Places -/

/-- A kept part further on. -/
def Capture.move (n : Nat) (c : Capture) : Capture := { c with start := c.start + n }

/-- A place further on, behind a line break when nothing was before it. -/
def Cursor.move (n : Nat) (c : Cursor) : Cursor where
  before := some (c.before.getD '\n')
  offset := c.offset + n
  rest := c.rest
  kept := c.kept.map fun entry => (entry.1, entry.2.move n)

/-- A match further on. -/
def Match.move (n : Nat) (m : Match) : Match where
  start := m.start + n
  text := m.text
  kept := m.kept.map fun entry => (entry.1, entry.2.move n)

section Places

variable {n : Nat} {c d : Cursor} {slot : Slot} {test : Char → Bool}

@[simp] theorem Capture.move_text (n : Nat) (c : Capture) :
    (c.move n).text = c.text := rfl

namespace Cursor

@[simp] theorem move_rest : (c.move n).rest = c.rest := rfl
@[simp] theorem move_offset : (c.move n).offset = c.offset + n := rfl
@[simp] theorem move_kept : (c.move n).kept = c.kept.map fun entry =>
    (entry.1, entry.2.move n) := rfl

/-- A condition on the character before can only tell a line break from nothing. -/
theorem move_before_any (htest : test '\n' = false) :
    (c.move n).before.any test = c.before.any test := by
  rw [move]
  cases c.before with
  | none => exact htest
  | some x => rfl

theorem move_before_all (htest : test '\n' = true) :
    (c.move n).before.all test = c.before.all test := by
  rw [move]
  cases c.before with
  | none => exact htest
  | some x => rfl

theorem move_next : (c.move n).next = c.next.move n := by
  unfold next
  rw [move_rest]
  cases c.rest with
  | nil => rfl
  | cons x rest => simp [move, Nat.add_right_comm]

theorem move_skip (k : Nat) : (c.move n).skip k = (c.skip k).move n := by
  induction k generalizing c with
  | zero => rfl
  | succ k ih => rw [skip, skip, move_next, ih]

theorem move_run : (c.move n).run test = (c.run test).map (Cursor.move n) := by
  obtain ⟨before, offset, rest, kept⟩ := c
  show along test (some (before.getD '\n')) (offset + n) (kept.map fun entry =>
    (entry.1, entry.2.move n)) rest =
    (along test before offset kept rest).map (Cursor.move n)
  induction rest generalizing before offset with
  | nil => rfl
  | cons x rest ih =>
      rw [along, along, List.map_cons]
      split
      · rw [← ih, Nat.add_right_comm]
        rfl
      · rfl

theorem move_kept? : (c.move n).kept? slot = (c.kept? slot).map (Capture.move n) := by
  rw [kept?, kept?, move_kept]
  induction c.kept with
  | nil => rfl
  | cons entry kept ih =>
      rw [List.map_cons, List.lookup_cons, List.lookup_cons, ih]
      split <;> rfl

theorem move_between : (c.move n).between (d.move n) = c.between d := by
  rw [between, between, move_rest, move_offset, move_offset, Nat.add_sub_add_right]

end Cursor

namespace Match

variable {m : Match}

@[simp] theorem move_start : (m.move n).start = m.start + n := rfl
@[simp] theorem move_text : (m.move n).text = m.text := rfl

@[simp] theorem move_part? : (m.move n).part? slot = m.part? slot := by
  rw [part?, part?, move]
  induction m.kept with
  | nil => rfl
  | cons entry kept ih =>
      rw [List.map_cons, List.lookup_cons, List.lookup_cons]
      split
      · rfl
      · exact ih

@[simp] theorem move_part : (m.move n).part slot = m.part slot := by
  rw [part, part, move_part?]

end Match

end Places

/-! ## Patterns -/

namespace Pattern

/-- Nothing in a pattern asks for a character before that could be a line break. -/
def IgnoresBreak : Pattern → Prop
  | append p q => p.IgnoresBreak ∧ q.IgnoresBreak
  | orElse p q => p.IgnoresBreak ∧ q.IgnoresBreak
  | iterate p => p.IgnoresBreak
  | keep _ p => p.IgnoresBreak
  | notAfter test => test '\n' = false
  | _ => True

section Patterns

variable {p : Pattern} {n : Nat} {c : Cursor} {step : Cursor → List Cursor}

theorem closure_move
    (hstep : ∀ c : Cursor, step (c.move n) = (step c).map (Cursor.move n)) (c : Cursor) :
    closure step (c.move n) = (closure step c).map (Cursor.move n) := by
  induction c using closure.induct with
  | case1 c ih =>
      rw [closure, closure, hstep, List.flatMap_map, List.map_append, List.map_flatMap]
      refine congrArg (· ++ _) (List.flatMap_congr fun d _ => ?_)
      by_cases hlt : d.rest.length < c.rest.length
      · rw [dif_pos hlt, dif_pos (by exact hlt), ih d hlt]
      · rw [dif_neg hlt, dif_neg (by exact hlt)]
        rfl

/-- A pattern leads to the same places further on. -/
theorem ends_move (hp : p.IgnoresBreak) (n : Nat) (c : Cursor) :
    p.ends (c.move n) = (p.ends c).map (Cursor.move n) := by
  induction p generalizing c with
  | text t =>
      rw [ends, ends, Cursor.move_rest, Cursor.move_skip]
      split <;> rfl
  | one test =>
      rw [ends, ends, Cursor.move_rest, Cursor.move_next]
      split <;> rfl
  | many test => rw [ends, ends, Cursor.move_run, List.map_reverse]
  | few test => rw [ends, ends, Cursor.move_run]
  | append p q ihp ihq =>
      rw [ends, ends, ihp hp.1, List.flatMap_map, List.map_flatMap]
      exact List.flatMap_congr fun d _ => ihq hp.2 d
  | orElse p q ihp ihq => rw [ends, ends, ihp hp.1, ihq hp.2, List.map_append]
  | iterate p ih => exact closure_move (ih hp) c
  | keep slot p ih =>
      rw [ends, ends, ih hp, List.map_map, List.map_map]
      refine List.map_congr_left fun d _ => ?_
      simp [Cursor.move, Capture.move, Nat.add_sub_add_right]
  | again slot =>
      rw [ends, ends, Cursor.move_kept?]
      cases c.kept? slot with
      | none => rfl
      | some capture =>
          simp only [Option.map_some, Capture.move_text, Cursor.move_rest,
            Cursor.move_skip]
          split <;> rfl
  | boundary =>
      have hat : (c.move n).atBoundary = c.atBoundary := by
        rw [Cursor.atBoundary, Cursor.atBoundary, Cursor.move_before_any (by decide),
          Cursor.move_rest]
      rw [ends, ends, hat]
      split <;> rfl
  | lineStart =>
      rw [ends, ends, Cursor.move_before_all (by decide)]
      split <;> rfl
  | lineEnd =>
      rw [ends, ends, Cursor.move_rest]
      split <;> rfl
  | notAfter test =>
      rw [ends, ends, Cursor.move_before_any hp]
      split <;> rfl

theorem matchAt_move (hp : p.IgnoresBreak) (n : Nat) (c : Cursor) :
    p.matchAt (c.move n) = (p.matchAt c).map (Match.move n) := by
  have hends : p.ends { c.move n with kept := [] } =
      (p.ends { c with kept := [] }).map (Cursor.move n) :=
    ends_move hp n { c with kept := [] }
  rw [matchAt, matchAt, hends, List.head?_map, Option.map_map, Option.map_map]
  refine congrArg (Option.map · _) (funext fun d => ?_)
  exact congrArg (Match.mk _ · _) Cursor.move_between

/-- A search finds the same further on. -/
theorem findFrom_move (hp : p.IgnoresBreak) (n : Nat) (before : Option Char)
    (offset wait : Nat) (t : Text) :
    p.findFrom (some (before.getD '\n')) (offset + n) wait t =
      (p.findFrom before offset wait t).map (Match.move n) := by
  have hhere (before : Option Char) (offset : Nat) (t : Text) :=
    matchAt_move hp n ⟨before, offset, t, []⟩
  induction t generalizing before offset wait with
  | nil =>
      rw [findFrom, findFrom]
      split
      · exact (congrArg Option.toList (hhere before offset [])).trans Option.toList_map
      · rfl
  | cons x t ih =>
      have hnext (wait : Nat) : p.findFrom (some x) (offset + n + 1) wait t =
          (p.findFrom (some x) (offset + 1) wait t).map (Match.move n) := by
        rw [Nat.add_right_comm]
        exact ih (some x) (offset + 1) wait
      cases wait with
      | succ wait => exact hnext wait
      | zero =>
          have hmove : p.matchAt ⟨some (before.getD '\n'), offset + n, x :: t, []⟩ = _ :=
            hhere before offset (x :: t)
          rw [findFrom, findFrom, hmove]
          cases p.matchAt ⟨before, offset, x :: t, []⟩ with
          | none => exact hnext 0
          | some m => exact congrArg (m.move n :: ·) (hnext _)

end Patterns

/-! ## Behind another text -/

/-- The matches in two texts, one behind the other, that begin in the first. -/
def begun (p : Pattern) (s t : Text) : List Match :=
  (p.findAll (s ++ t)).filter (·.start < s.length)

/-- How many characters of the second text belong to a match that begins in the first. -/
def spill (p : Pattern) (s t : Text) : Nat :=
  ((p.begun s t).getLast?.map fun m => m.start + m.text.length - s.length).getD 0

section Behind

variable {p : Pattern} {s t : Text} {m : Match} {c : Cursor} {before : Option Char}
  {offset wait : Nat}

theorem start_of_matchAt (h : p.matchAt c = some m) : m.start = c.offset := by
  obtain ⟨d, -, rfl⟩ := Option.map_eq_some_iff.1 h
  rfl

theorem le_start_of_mem_findFrom (h : m ∈ p.findFrom before offset wait t) :
    offset ≤ m.start := by
  induction t generalizing before offset wait with
  | nil =>
      rw [findFrom] at h
      split at h
      · exact Nat.le_of_eq (start_of_matchAt (Option.mem_toList.1 h)).symm
      · exact absurd h List.not_mem_nil
  | cons x t ih =>
      cases wait with
      | succ wait => exact Nat.le_of_succ_le (ih h)
      | zero =>
          rw [findFrom] at h
          split at h
          · next n hn =>
              rcases List.mem_cons.1 h with rfl | h
              · exact Nat.le_of_eq (start_of_matchAt hn).symm
              · exact Nat.le_of_succ_le (ih h)
          · exact Nat.le_of_succ_le (ih h)

/-- The search through a second text goes on where the last match that begins in the first
one ends. -/
theorem exists_findFrom_append (p : Pattern) (before : Option Char) (offset wait : Nat)
    (s t : Text) :
    ∃ first : List Match, (∀ m ∈ first, m.start < offset + s.length) ∧
      p.findFrom before offset wait (s ++ t) =
        first ++ p.findFrom (s.getLast?.or before) (offset + s.length)
        ((first.getLast?.map fun m => m.start + m.text.length - (offset + s.length)).getD
          (wait - s.length)) t := by
  induction s generalizing before offset wait with
  | nil => exact ⟨[], List.forall_mem_nil _, rfl⟩
  | cons x s ih =>
      have hlength : offset + (x :: s).length = offset + 1 + s.length := by
        rw [List.length_cons]
        omega
      rw [getLast?_cons_or, hlength, List.cons_append]
      cases wait with
      | succ wait =>
          obtain ⟨first, hfirst, heq⟩ := ih (some x) (offset + 1) wait
          refine ⟨first, hfirst, ?_⟩
          rw [findFrom, heq, List.length_cons, Nat.add_sub_add_right]
      | zero =>
          rw [findFrom]
          cases hm : p.matchAt ⟨before, offset, x :: (s ++ t), []⟩ with
          | none =>
              obtain ⟨first, hfirst, heq⟩ := ih (some x) (offset + 1) 0
              refine ⟨first, hfirst, ?_⟩
              rw [Nat.zero_sub] at heq ⊢
              exact heq
          | some m =>
              have hstart : m.start = offset := start_of_matchAt hm
              obtain ⟨first, hfirst, heq⟩ := ih (some x) (offset + 1) (m.text.length - 1)
              refine ⟨m :: first, List.forall_mem_cons.2 ⟨by omega, hfirst⟩, ?_⟩
              show m :: p.findFrom (some x) (offset + 1) (m.text.length - 1) (s ++ t) = _
              rw [heq, List.cons_append]
              -- If no match follows in the first text, it is this one that may go beyond.
              cases hnil : first.getLast? with
              | none =>
                  have hwait : m.text.length - 1 - s.length = m.start + m.text.length -
                      (offset + 1 + s.length) := by
                    omega
                  rw [List.getLast?_cons, hnil, Option.getD_none, Option.map_some,
                    Option.getD_some, Option.map_none, Option.getD_none, hwait]
              | some n =>
                  rw [List.getLast?_cons, hnil, Option.getD_some, Option.map_some,
                    Option.getD_some,
                  Option.getD_some]

theorem findAll_append (p : Pattern) (s t : Text) :
    p.findAll (s ++ t) = p.begun s t ++
      p.findFrom s.getLast? s.length (p.spill s t) t := by
  obtain ⟨first, hfirst, heq⟩ := exists_findFrom_append p none 0 0 s t
  rw [Nat.zero_add, Nat.zero_sub, Option.or_none] at heq
  have hbegun : p.begun s t = first := by
    rw [begun, findAll, heq, List.filter_append, List.filter_eq_self.2,
      List.filter_eq_nil_iff.2, List.append_nil]
    · intro m hm
      have hle := le_start_of_mem_findFrom hm
      simpa using hle
    · intro m hm
      simpa using hfirst m hm
  rw [spill, hbegun, findAll, heq]

/-- Behind a line of its own a pattern finds in a text what it finds there anyway, from
where the last match that begins on the line ends. -/
theorem findAll_behind_line (hp : p.IgnoresBreak)
    (hlast : s.getLast? = some '\n') (t : Text) :
    p.findAll (s ++ t) = p.begun s t ++
      (p.findFrom none 0 (p.spill s t) t).map (Match.move s.length) := by
  have hmove := findFrom_move hp s.length none 0 (p.spill s t) t
  rw [Nat.zero_add, Option.getD_none] at hmove
  rw [findAll_append, hlast, hmove]

/-- A word without line breaks that begins in a text that ends in one is a part of it. -/
theorem infix_of_prefix_append {word v : Text} (hword : '\n' ∉ word)
    (hlast : v.getLast? = some '\n') (h : word <+: v ++ t) : word <:+: v := by
  rcases List.prefix_or_prefix_of_prefix h (List.prefix_append v t)
    with hpre | ⟨more, rfl⟩
  · exact hpre.isInfix
  · exact absurd (List.mem_append_left more (List.mem_of_getLast? hlast)) hword

/-- No match begins on a line that holds none of the words which the pattern begins
with. -/
theorem begun_eq_nil {words : List Text} (hp : p.Opens words)
    (hwords : ∀ word ∈ words, '\n' ∉ word ∧ ¬ word <:+: s)
    (hlast : s.getLast? = some '\n') (t : Text) : p.begun s t = [] := by
  have hpast : p.foundFrom (.ofText (s ++ t)) =
      p.foundFrom ((Cursor.ofText (s ++ t)).past s t) := by
    refine foundFrom_past rfl fun u v huv hv =>
      matchAt_of_opens hp fun word hword hpre => ?_
    obtain ⟨hbreak, hnone⟩ := hwords word hword
    have hend : v.getLast? = some '\n' := by
      rwa [huv, List.getLast?_append_of_ne_nil _ hv] at hlast
    have hinside : word <:+: v := infix_of_prefix_append hbreak hend hpre
    exact hnone (hinside.trans ⟨u, [], by rw [huv, List.append_nil]⟩)
  rw [begun, findAll_eq, hpast, List.filter_eq_nil_iff]
  intro m hm
  have hle := le_start_of_mem_findFrom hm
  simpa [Cursor.past, Cursor.ofText] using hle

end Behind

end Pattern

end ImpactGraph
