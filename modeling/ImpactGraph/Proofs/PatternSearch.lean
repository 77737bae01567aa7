import ImpactGraph.Proofs.PatternTakes

/-!
# The match that a search finds

A match is the first of all ways through a pattern, and a way counts only when
the rest of the pattern can go on from it. `first` says this part by part: it
is handed what is to come as a function, and gives the answer of the first way
from which there is one. For a run of characters that means the longest stretch
after which the rest succeeds, or the shortest when the run is reluctant, so a
match can be followed from left to right with one step for each part.

Between matches the search goes from character to character. What a block of
text gives can therefore be found on its own, as long as no match begins at
the line break behind it or goes beyond.
-/

namespace ImpactGraph

/-! ## Places reached -/

namespace Cursor

/-- The place after a text, when something is left. -/
def past (c : Cursor) (taken rest : Text) : Cursor :=
  ⟨taken.getLast?.or c.before, c.offset + taken.length, rest, c.kept⟩

/-- This place, with the text since an earlier one kept in a slot. -/
def keeping (d : Cursor) (slot : Slot) (c : Cursor) : Cursor :=
  { d with kept := (slot, ⟨c.offset, c.rest, d.offset - c.offset⟩) :: d.kept }

/-- What was matched from one place to another. -/
def matchTo (c d : Cursor) : Match := ⟨c.offset, c.between d, d.kept⟩

variable {c d : Cursor} {taken rest : Text}

@[simp] theorem past_rest : (c.past taken rest).rest = rest := rfl
@[simp] theorem past_offset : (c.past taken rest).offset = c.offset + taken.length := rfl
@[simp] theorem past_kept : (c.past taken rest).kept = c.kept := rfl
@[simp] theorem keeping_rest {slot : Slot} : (d.keeping slot c).rest = d.rest := rfl
@[simp] theorem keeping_offset {slot : Slot} : (d.keeping slot c).offset = d.offset := rfl
@[simp] theorem keeping_before {slot : Slot} : (d.keeping slot c).before = d.before := rfl
@[simp] theorem keeping_kept {slot : Slot} :
    (d.keeping slot c).kept = (slot, ⟨c.offset, c.rest, d.offset - c.offset⟩) :: d.kept :=
  rfl

theorem past_before_of_ne_nil (h : taken ≠ []) :
    (c.past taken rest).before = taken.getLast? := by
  rw [past, List.getLast?_eq_some_getLast h, Option.some_or]

theorem past_nil (h : c.rest = rest) : c.past [] rest = c := by
  rw [← h]
  rfl

theorem past_past {more last : Text} :
    (c.past taken rest).past more last = c.past (taken ++ more) last := by
  simp only [past, List.getLast?_append, Option.or_assoc, List.length_append,
    Nat.add_assoc]

theorem spans_past (h : c.rest = taken ++ rest) :
    c.Spans (c.past taken rest) taken := ⟨h, rfl⟩

theorem matchTo_text (h : c.Spans d taken) : (c.matchTo d).text = taken := by
  rw [matchTo, between, h.2, h.1, Nat.add_sub_cancel_left, List.take_left]

theorem skip_eq_past (h : c.rest = taken ++ rest) :
    c.skip taken.length = c.past taken rest := by
  induction taken generalizing c with
  | nil => exact (past_nil h).symm
  | cons x taken ih =>
      have hnext : c.next = c.past [x] (taken ++ rest) := by
        rw [next, h]
        rfl
      rw [List.length_cons, skip, hnext, ih past_rest, past_past]
      rfl

/-- The places along a run: first here, then those after the next character when it
belongs. -/
theorem run_cons {p : Char → Bool} {x : Char} (h : c.rest = x :: rest) :
    c.run p = c :: (if p x then (c.past [x] rest).run p else []) := by
  obtain ⟨before, offset, text, kept⟩ := c
  obtain rfl : text = x :: rest := h
  rfl

theorem run_of_head? {p : Char → Bool} (h : ∀ x ∈ c.rest.head?, p x = false) :
    c.run p = [c] := by
  cases hrest : c.rest with
  | nil =>
      obtain ⟨before, offset, text, kept⟩ := c
      obtain rfl : text = [] := hrest
      rfl
  | cons x rest => rw [run_cons hrest, if_neg (by simp [h x (by rw [hrest]; rfl)])]

end Cursor

namespace Pattern

/-! ## The first way that can go on -/

section First

variable {β : Type} {next : Cursor → Option β} {c : Cursor} {m : β} {p q : Pattern}
  {test : Char → Bool} {taken rest : Text}

/-- The answer of the first way through a pattern from which there is one. -/
def first (p : Pattern) (next : Cursor → Option β) (c : Cursor) : Option β :=
  (p.ends c).findSome? next

theorem first_append (p q : Pattern) (next : Cursor → Option β) :
    (p ++ q).first next = p.first (q.first next) := by
  funext c
  show ((p.ends c).flatMap (ends q)).findSome? next = _
  rw [first]
  induction p.ends c with
  | nil => rfl
  | cons d ds ih =>
      rw [List.flatMap_cons, List.findSome?_append, ih, List.findSome?_cons]
      show (q.first next d).or _ = _
      cases q.first next d <;> rfl

theorem first_orElse (p q : Pattern) (next : Cursor → Option β) (c : Cursor) :
    (orElse p q).first next c = (p.first next c).or (q.first next c) :=
  List.findSome?_append

theorem first_keep (slot : Slot) (p : Pattern) (next : Cursor → Option β) (c : Cursor) :
    (keep slot p).first next c = p.first (fun d => next (d.keeping slot c)) c := by
  rw [first, ends, List.findSome?_map]
  rfl

theorem first_eq_none (h : ∀ d ∈ p.ends c, next d = none) : p.first next c = none :=
  List.findSome?_eq_none_iff.2 h

theorem first_of_orElse (h : p.first next c = some m) :
    (orElse p q).first next c = some m := by
  rw [first_orElse, h, Option.some_or]

theorem first_of_orElse_right (hp : p.first next c = none)
    (hq : q.first next c = some m) : (orElse p q).first next c = some m := by
  rw [first_orElse, hp, hq, Option.none_or]

theorem first_optional (h : p.first next c = some m) : p.optional.first next c = some m :=
  first_of_orElse h

theorem first_text (hrest : c.rest = taken ++ rest)
    (h : next (c.past taken rest) = some m) : (text taken).first next c = some m := by
  rw [first, ends, if_pos (by simp [hrest]), List.findSome?_singleton,
    Cursor.skip_eq_past hrest, h]

theorem first_optional_right (hp : p.first next c = none) (h : next c = some m) :
    p.optional.first next c = some m :=
  first_of_orElse_right hp (first_text rfl (by rw [Cursor.past_nil rfl, h]))

theorem first_word {s : String} (hrest : c.rest = s.toList ++ rest)
    (h : next (c.past s.toList rest) = some m) : (word s).first next c = some m :=
  first_text hrest h

theorem first_one {x : Char} (hrest : c.rest = x :: rest) (hx : test x = true)
    (h : next (c.past [x] rest) = some m) : (one test).first next c = some m := by
  have hnext : c.next = c.past [x] rest := by
    rw [Cursor.next, hrest]
    rfl
  rw [first, ends, if_pos (by simp [hrest, hx]), List.findSome?_singleton, hnext, h]

theorem first_one_of_stop (h : ∀ x ∈ c.rest.head?, test x = false) :
    (one test).first next c = none := by
  refine first_eq_none fun d hd => ?_
  obtain ⟨_, ⟨hrest, -⟩, x, rfl, hx⟩ := takes_of_mem_ends hd
  exact absurd hx (by simp [h x (by rw [hrest]; rfl)])

/-- A greedy run ends where its class does, when the rest can go on there. -/
theorem first_many (hrest : c.rest = taken ++ rest) (htaken : ∀ x ∈ taken, test x = true)
    (hstop : ∀ x ∈ rest.head?, test x = false) (h : next (c.past taken rest) = some m) :
    (many test).first next c = some m := by
  have hlast : ∃ before, c.run test = before ++ [c.past taken rest] := by
    clear h
    induction taken generalizing c with
    | nil =>
        rw [List.nil_append] at hrest
        exact ⟨[], by
          rw [Cursor.run_of_head? (hrest ▸ hstop), Cursor.past_nil hrest]; rfl⟩
    | cons x taken ih =>
        obtain ⟨hx, htaken⟩ := List.forall_mem_cons.1 htaken
        obtain ⟨before, hbefore⟩ :=
          @ih (c.past [x] (taken ++ rest)) Cursor.past_rest htaken
        have hcons : c.rest = x :: (taken ++ rest) := hrest
        refine ⟨c :: before, ?_⟩
        rw [Cursor.run_cons hcons, if_pos hx, hbefore, Cursor.past_past]
        rfl
  obtain ⟨before, hbefore⟩ := hlast
  rw [first, ends, hbefore, List.reverse_append, List.reverse_singleton,
    List.singleton_append, List.findSome?_cons, h]

theorem first_many_of_stop (hstop : ∀ x ∈ c.rest.head?, test x = false)
    (h : next c = some m) : (many test).first next c = some m := by
  refine @first_many _ _ _ _ _ [] _ rfl (List.forall_mem_nil _) hstop ?_
  rw [Cursor.past_nil rfl, h]

/-- A reluctant run ends at the first place where the rest can go on. -/
theorem first_few (hrest : c.rest = taken ++ rest) (htaken : ∀ x ∈ taken, test x = true)
    (hearly : ∀ a b, taken = a ++ b → b ≠ [] → next (c.past a (b ++ rest)) = none)
    (h : next (c.past taken rest) = some m) : (few test).first next c = some m := by
  rw [first, ends]
  induction taken generalizing c with
  | nil =>
      rw [List.nil_append] at hrest
      rw [Cursor.past_nil hrest] at h
      have hhead : ∃ ds, c.run test = c :: ds := by
        cases hr : c.rest with
        | nil => exact ⟨_, Cursor.run_of_head? (by simp [hr])⟩
        | cons x t => exact ⟨_, Cursor.run_cons hr⟩
      obtain ⟨ds, hds⟩ := hhead
      rw [hds, List.findSome?_cons, h]
  | cons x taken ih =>
      obtain ⟨hx, htaken⟩ := List.forall_mem_cons.1 htaken
      have hhere : next c = none := by
        have hnil := hearly [] (x :: taken) rfl (List.cons_ne_nil _ _)
        rwa [Cursor.past_nil hrest] at hnil
      rw [Cursor.run_cons hrest, if_pos hx, List.findSome?_cons, hhere]
      refine ih Cursor.past_rest htaken (fun a b hab hb => ?_) ?_
      · rw [Cursor.past_past]
        exact hearly (x :: a) b (by rw [hab]; rfl) hb
      · rw [Cursor.past_past]
        exact h

theorem first_many1 {x : Char} (hrest : c.rest = x :: taken ++ rest) (hx : test x = true)
    (htaken : ∀ y ∈ taken, test y = true) (hstop : ∀ y ∈ rest.head?, test y = false)
    (h : next (c.past (x :: taken) rest) = some m) :
    (many1 test).first next c = some m := by
  rw [many1, first_append]
  refine first_one hrest hx (first_many Cursor.past_rest htaken hstop ?_)
  rw [Cursor.past_past]
  exact h

theorem first_boundary (hat : c.atBoundary = true) (h : next c = some m) :
    boundary.first next c = some m := by
  rw [first, ends, if_pos hat, List.findSome?_singleton, h]

theorem first_lineStart (hline : ∀ x ∈ c.before, x = '\n') (h : next c = some m) :
    lineStart.first next c = some m := by
  have hat : c.before.all (· = '\n') = true :=
    (Option.all_eq_true _ _).2 fun x hx => decide_eq_true (hline x hx)
  rw [first, ends, if_pos hat, List.findSome?_singleton, h]

theorem first_again {slot : Slot} (hkept : (c.kept? slot).map Capture.text = some taken)
    (hrest : c.rest = taken ++ rest) (h : next (c.past taken rest) = some m) :
    (again slot).first next c = some m := by
  obtain ⟨capture, hcapture, rfl⟩ := Option.map_eq_some_iff.1 hkept
  rw [first, ends]
  simp only [hcapture]
  rw [if_pos (by simp [hrest]), List.findSome?_singleton, Cursor.skip_eq_past hrest, h]

/-- A match is the preferred way through a pattern, whatever was kept before. -/
theorem matchAt_of_first {d : Cursor} (h : p.first some { c with kept := [] } = some d) :
    p.matchAt c = some (c.matchTo d) := by
  rw [first] at h
  rw [matchAt]
  cases hends : p.ends { c with kept := [] } with
  | nil => rw [hends] at h; exact absurd h (by simp)
  | cons e ends =>
      rw [hends, List.findSome?_cons] at h
      rw [List.head?_cons, ← Option.some.inj h]
      rfl

/-- A part that was kept over a text is that text. -/
theorem part?_of_lookup {m : Match} {slot : Slot} {d : Cursor}
    (h : m.kept.lookup slot = some ⟨c.offset, c.rest, d.offset - c.offset⟩)
    (hspan : c.Spans d taken) : m.part? slot = some taken := by
  rw [Match.part?, h, Option.map_some, text_capture hspan]

theorem part_of_lookup {m : Match} {slot : Slot} {d : Cursor}
    (h : m.kept.lookup slot = some ⟨c.offset, c.rest, d.offset - c.offset⟩)
    (hspan : c.Spans d taken) : m.part slot = taken := by
  rw [Match.part, part?_of_lookup h hspan, Option.getD_some]

end First

/-! ## From match to match -/

section Search

variable {p : Pattern} {c : Cursor} {m : Match} {taken rest : Text}

/-- The matches from a place on. -/
def foundFrom (p : Pattern) (c : Cursor) : List Match :=
  p.findFrom c.before c.offset 0 c.rest

theorem findAll_eq (p : Pattern) (t : Text) : p.findAll t = p.foundFrom (.ofText t) := rfl

theorem getLast?_cons_or (x : Char) (t : Text) (before : Option Char) :
    (x :: t).getLast?.or before = t.getLast?.or (some x) := by
  cases t with
  | nil => rfl
  | cons y t => simp [List.getLast?_eq_some_getLast]

theorem findFrom_wait (before : Option Char) (offset : Nat) (taken rest : Text) :
    p.findFrom before offset taken.length (taken ++ rest) =
      p.findFrom (taken.getLast?.or before) (offset + taken.length) 0 rest := by
  induction taken generalizing before offset with
  | nil => rfl
  | cons x taken ih =>
      rw [List.length_cons, List.cons_append, findFrom, ih, getLast?_cons_or,
        Nat.add_assoc, Nat.add_comm 1]

/-- The search goes on behind a match. -/
theorem foundFrom_of_match (hrest : c.rest = taken ++ rest) (hne : taken ≠ [])
    (hm : p.matchAt c = some m) (htext : m.text = taken) :
    p.foundFrom c = m :: p.foundFrom (c.past taken rest) := by
  obtain ⟨before, offset, text, kept⟩ := c
  obtain rfl : text = taken ++ rest := hrest
  cases taken with
  | nil => exact absurd rfl hne
  | cons x taken =>
      have hhere : p.matchAt ⟨before, offset, x :: (taken ++ rest), []⟩ = some m := hm
      have hwait : m.text.length - 1 = taken.length := by rw [htext]; rfl
      have hlast := @findFrom_wait p (some x) (offset + 1) taken rest
      have hpast :
          (Cursor.past ⟨before, offset, x :: taken ++ rest, kept⟩ (x :: taken) rest) =
            (Cursor.past ⟨some x, offset + 1, taken ++ rest, kept⟩ taken rest) :=
        (@Cursor.past_past ⟨before, offset, x :: taken ++ rest, kept⟩ [x]
          (taken ++ rest) taken rest).symm
      rw [hpast, foundFrom, List.cons_append, findFrom]
      simp only [hhere]
      rw [hwait, hlast]
      rfl

theorem foundFrom_of_first {d : Cursor} (hrest : c.rest = taken ++ rest)
    (hne : taken ≠ []) (hfirst : p.first some { c with kept := [] } = some d)
    (hspan : c.Spans d taken) :
    p.foundFrom c = c.matchTo d :: p.foundFrom (c.past taken rest) :=
  foundFrom_of_match hrest hne (matchAt_of_first hfirst) (Cursor.matchTo_text hspan)

theorem foundFrom_nil {c : Cursor} (hquiet : p.matchAt c = none) (hrest : c.rest = []) :
    p.foundFrom c = [] := by
  have hhere : p.matchAt ⟨c.before, c.offset, [], []⟩ = none := by
    rw [← hrest]
    exact hquiet
  rw [foundFrom, hrest, findFrom, if_pos rfl, hhere]
  rfl

/-- The search goes past a text in which no match begins. -/
theorem foundFrom_past (hrest : c.rest = taken ++ rest)
    (hnone : ∀ u v, taken = u ++ v → v ≠ [] → p.matchAt (c.past u (v ++ rest)) = none) :
    p.foundFrom c = p.foundFrom (c.past taken rest) := by
  induction taken generalizing c with
  | nil => rw [@Cursor.past_nil c rest hrest]
  | cons x taken ih =>
      have hhere := hnone [] (x :: taken) rfl (List.cons_ne_nil _ _)
      rw [Cursor.past_nil hrest] at hhere
      have hstep : p.foundFrom c = p.foundFrom (c.past [x] (taken ++ rest)) := by
        obtain ⟨before, offset, text, kept⟩ := c
        obtain rfl : text = x :: (taken ++ rest) := hrest
        have hhere : p.matchAt ⟨before, offset, x :: (taken ++ rest), []⟩ = none := hhere
        rw [foundFrom, findFrom]
        simp only [hhere]
        rfl
      rw [hstep, ih Cursor.past_rest, Cursor.past_past]
      · rfl
      · intro u v huv hv
        rw [Cursor.past_past]
        exact hnone (x :: u) v (by rw [huv]; rfl) hv

theorem matchAt_eq_none (h : ∀ d, d ∉ p.ends { c with kept := [] }) :
    p.matchAt c = none := by
  rw [matchAt, List.eq_nil_iff_forall_not_mem.2 h]
  rfl

/-- A pattern leads nowhere from where none of its words is. -/
theorem matchAt_of_opens {words : List Text} (hp : p.Opens words)
    (hrest : ∀ w ∈ words, ¬ w <+: c.rest) : p.matchAt c = none := by
  refine matchAt_eq_none fun d hd => ?_
  obtain ⟨t, ⟨hspan, -⟩, ht⟩ := takes_of_mem_ends hd
  obtain ⟨w, hw, hstart⟩ := hp t ht
  exact hrest w hw (hstart.trans ⟨d.rest, hspan.symm⟩)

/-- Where no match begins at any place of a text, there is none in it. -/
theorem findAll_eq_nil_of_matchAt {t : Text}
    (hnone : ∀ u v, t = u ++ v → p.matchAt ((Cursor.ofText t).past u v) = none) :
    p.findAll t = [] := by
  have hall : p.foundFrom (.ofText t) = p.foundFrom ((Cursor.ofText t).past t []) := by
    refine foundFrom_past (List.append_nil t).symm fun u v huv _ => ?_
    rw [List.append_nil]
    exact hnone u v huv
  rw [findAll_eq, hall, foundFrom_nil (hnone t [] (List.append_nil t).symm) rfl]

/-- A pattern that leads nowhere from any place of a text has no match in it. -/
theorem findAll_eq_nil {t : Text} (h : ∀ c : Cursor, c.rest <:+ t → ∀ d, d ∉ p.ends c) :
    p.findAll t = [] :=
  findAll_eq_nil_of_matchAt fun u _ huv => matchAt_eq_none (h _ ⟨u, huv.symm⟩)

end Search

end Pattern

end ImpactGraph
