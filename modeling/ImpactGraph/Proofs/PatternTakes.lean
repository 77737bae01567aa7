import ImpactGraph.Pattern.Basic

/-!
# What patterns take and keep

A match may use any of the ways that the meaning of its pattern lists, so a
fact about all matches has to be a fact about all ways. `Takes` says which
texts a pattern can take, without asking where: places, boundaries and texts
that have to come back are left out of it. `Keeps` and `Catches` are read off
a pattern constructor by constructor: the first asks something of every text
that a slot keeps, the second that every way keeps one.

The inductions below carry the three over to the places a pattern leads to,
and from there to the matches in a text. Only the repetition is not
structural: it is taken along the text that is left, like the definition of
`closure`.
-/

namespace ImpactGraph

namespace Cursor

/-- One place is reached from another over a text. -/
def Spans (c d : Cursor) (taken : Text) : Prop :=
  c.rest = taken ++ d.rest ∧ d.offset = c.offset + taken.length

theorem Spans.refl (c : Cursor) : c.Spans c [] := ⟨rfl, rfl⟩

theorem Spans.trans {c d e : Cursor} {s t : Text} (hs : c.Spans d s) (ht : d.Spans e t) :
    c.Spans e (s ++ t) := by
  refine ⟨by rw [hs.1, ht.1, List.append_assoc], ?_⟩
  rw [ht.2, hs.2, List.length_append]
  omega

/-- One place keeps what another kept, and more; what a slot gained passes a test. -/
def Gains (slot : Slot) (Q : Text → Prop) (c d : Cursor) : Prop :=
  ∃ new, d.kept = new ++ c.kept ∧ ∀ capture, (slot, capture) ∈ new → Q capture.text

theorem Gains.of_eq {slot : Slot} {Q : Text → Prop} {c d : Cursor} (h : d.kept = c.kept) :
    c.Gains slot Q d := ⟨[], h, fun _ hmem => absurd hmem List.not_mem_nil⟩

theorem Gains.trans {slot : Slot} {Q : Text → Prop} {c d e : Cursor}
    (hcd : c.Gains slot Q d) (hde : d.Gains slot Q e) : c.Gains slot Q e := by
  obtain ⟨s, hs, hsQ⟩ := hcd
  obtain ⟨t, ht, htQ⟩ := hde
  refine ⟨t ++ s, by rw [ht, hs, List.append_assoc], fun capture hmem => ?_⟩
  rcases List.mem_append.1 hmem with hmem | hmem
  · exact htQ capture hmem
  · exact hsQ capture hmem

theorem next_kept (c : Cursor) : c.next.kept = c.kept := by
  unfold next
  split <;> rfl

theorem skip_kept (c : Cursor) (n : Nat) : (c.skip n).kept = c.kept := by
  induction n generalizing c with
  | zero => rfl
  | succ n ih => rw [skip, ih, next_kept]

theorem spans_skip {c : Cursor} {t : Text} (h : t <+: c.rest) :
    c.Spans (c.skip t.length) t := by
  induction t generalizing c with
  | nil => exact Spans.refl c
  | cons x t ih =>
      obtain ⟨r, hr⟩ := h
      have hnext : c.next.rest = t ++ r ∧ c.next.offset = c.offset + 1 := by
        rw [next, ← hr]
        exact ⟨rfl, rfl⟩
      have hone : c.Spans c.next [x] := ⟨by rw [hnext.1, ← hr]; rfl, hnext.2⟩
      exact hone.trans (ih ⟨r, hnext.1.symm⟩)

theorem of_mem_along {p : Char → Bool} {before : Option Char} {offset : Nat}
    {kept : List (Slot × Capture)} {t : Text} {d : Cursor}
    (h : d ∈ along p before offset kept t) :
    d.kept = kept ∧ ∃ taken, t = taken ++ d.rest ∧ d.offset = offset + taken.length ∧
      ∀ x ∈ taken, p x = true := by
  induction t generalizing before offset with
  | nil =>
      rw [along, List.mem_singleton] at h
      subst h
      exact ⟨rfl, [], rfl, rfl, by simp⟩
  | cons x t ih =>
      rw [along] at h
      rcases List.mem_cons.1 h with rfl | h
      · exact ⟨rfl, [], rfl, rfl, by simp⟩
      · split at h
        · next hx =>
            obtain ⟨hk, taken, ht, ho, hp⟩ := ih h
            refine ⟨hk, x :: taken, by rw [ht]; rfl, ?_, fun y hy => ?_⟩
            · rw [ho, List.length_cons]
              omega
            · rcases List.mem_cons.1 hy with rfl | hy
              · exact hx
              · exact hp y hy
        · exact absurd h List.not_mem_nil

theorem of_mem_run {p : Char → Bool} {c d : Cursor} (h : d ∈ c.run p) :
    d.kept = c.kept ∧ ∃ taken, c.Spans d taken ∧ ∀ x ∈ taken, p x = true := by
  obtain ⟨hk, taken, ht, ho, hp⟩ := of_mem_along h
  exact ⟨hk, taken, ⟨ht, ho⟩, hp⟩

end Cursor

namespace Pattern

/-- The texts that a pattern can take somewhere. -/
def Takes : Pattern → Text → Prop
  | text t, s => s = t
  | one p, s => ∃ x, s = [x] ∧ p x = true
  | many p, s | few p, s => ∀ x ∈ s, p x = true
  | append p q, s => ∃ a b, s = a ++ b ∧ p.Takes a ∧ q.Takes b
  | orElse p q, s => p.Takes s ∨ q.Takes s
  | iterate p, s =>
    ∃ pieces : List Text, s = pieces.flatten ∧ ∀ piece ∈ pieces, p.Takes piece
  | keep _ p, s => p.Takes s
  | again _, _ => True
  | boundary, s | lineStart, s | lineEnd, s | notAfter _, s => s = []

/-- Every text that a pattern keeps in a slot satisfies a test. -/
def Keeps (slot : Slot) (Q : Text → Prop) : Pattern → Prop
  | append p q | orElse p q => p.Keeps slot Q ∧ q.Keeps slot Q
  | iterate p => p.Keeps slot Q
  | keep s p => (s = slot → ∀ t, p.Takes t → Q t) ∧ p.Keeps slot Q
  | text _ | one _ | many _ | few _ | again _ | boundary | lineStart | lineEnd |
      notAfter _ => True

/-- Every way through a pattern keeps a text in a slot. -/
def Catches (slot : Slot) : Pattern → Prop
  | append p q => p.Catches slot ∨ q.Catches slot
  | orElse p q => p.Catches slot ∧ q.Catches slot
  | keep s p => s = slot ∨ p.Catches slot
  | iterate _ | text _ | one _ | many _ | few _ | again _ | boundary | lineStart | lineEnd
  | notAfter _ => False

variable {slot : Slot} {Q : Text → Prop} {p q : Pattern} {c d : Cursor}

@[simp] theorem keeps_append : (p ++ q).Keeps slot Q ↔ p.Keeps slot Q ∧
    q.Keeps slot Q := Iff.rfl

@[simp] theorem keeps_word (s : String) : (word s).Keeps slot Q := trivial

@[simp] theorem keeps_many1 (p : Char → Bool) : (many1 p).Keeps slot Q :=
  ⟨trivial, trivial⟩

@[simp] theorem keeps_optional : p.optional.Keeps slot Q ↔ p.Keeps slot Q :=
  and_iff_left trivial

@[simp] theorem catches_append : (p ++ q).Catches slot ↔ p.Catches slot ∨
    q.Catches slot := Iff.rfl

/-- A run of at least one character. -/
theorem takes_many1 {p : Char → Bool} {s : Text} :
    (many1 p).Takes s ↔ s ≠ [] ∧ ∀ x ∈ s, p x = true := by
  constructor
  · rintro ⟨_, b, rfl, ⟨x, rfl, hx⟩, hb⟩
    refine ⟨by simp, fun y hy => ?_⟩
    rcases List.mem_cons.1 hy with rfl | hy
    · exact hx
    · exact hb y hy
  · rintro ⟨hne, h⟩
    cases s with
    | nil => exact absurd rfl hne
    | cons x s =>
        exact ⟨[x], s, rfl, ⟨x, rfl, h x List.mem_cons_self⟩,
          fun y hy => h y (List.mem_cons_of_mem _ hy)⟩

theorem takes_append_assoc {r : Pattern} {t : Text} :
    (p ++ q ++ r).Takes t ↔ (p ++ (q ++ r)).Takes t := by
  constructor
  · rintro ⟨_, u, rfl, ⟨s, t, rfl, hs, ht⟩, hu⟩
    exact ⟨s, t ++ u, List.append_assoc s t u, hs, t, u, rfl, ht, hu⟩
  · rintro ⟨s, _, rfl, hs, t, u, rfl, ht, hu⟩
    exact ⟨s ++ t, u, (List.append_assoc s t u).symm, ⟨s, t, rfl, hs, ht⟩, hu⟩

/-! ## Letters -/

/-- Every letter that a pattern can take passes a test. -/
def Reads (P : Char → Prop) : Pattern → Prop
  | text t => ∀ x ∈ t, P x
  | one q | many q | few q => ∀ x, q x = true → P x
  | append p q | orElse p q => p.Reads P ∧ q.Reads P
  | iterate p | keep _ p => p.Reads P
  | again _ => False
  | boundary | lineStart | lineEnd | notAfter _ => True

theorem forall_mem_of_takes {P : Char → Prop} {t : Text} (hp : p.Reads P)
    (ht : p.Takes t) : ∀ x ∈ t, P x := by
  induction p generalizing t with
  | text s =>
      obtain rfl : t = s := ht
      exact hp
  | one q =>
      obtain ⟨x, rfl, hx⟩ := ht
      exact List.forall_mem_singleton.2 (hp x hx)
  | many q | few q => exact fun x hx => hp x (ht x hx)
  | append p q ihp ihq =>
      obtain ⟨a, b, rfl, ha, hb⟩ := ht
      exact List.forall_mem_append.2 ⟨ihp hp.1 ha, ihq hp.2 hb⟩
  | orElse p q ihp ihq => exact ht.elim (ihp hp.1) (ihq hp.2)
  | iterate p ih =>
      obtain ⟨pieces, rfl, hpieces⟩ := ht
      intro x hx
      obtain ⟨piece, hpiece, hx⟩ := List.mem_flatten.1 hx
      exact ih hp (hpieces piece hpiece) x hx
  | keep _ p ih => exact ih hp ht
  | again _ => exact hp.elim
  | boundary | lineStart | lineEnd | notAfter _ =>
      obtain rfl : t = [] := ht
      exact List.forall_mem_nil _

/-! ## Words to begin with -/

/-- Every text that a pattern takes begins with one of some words. -/
def Opens (p : Pattern) (words : List Text) : Prop :=
  ∀ t, p.Takes t → ∃ w ∈ words, w <+: t

section Opens

variable {words : List Text} {t : Text} {empty : Bool}

/-- The words that can begin what a pattern takes, and whether it can take nothing; none
if it may begin otherwise. -/
def openings : Pattern → Option (List Text × Bool)
  | text t => some (if t = [] then ([], true) else ([t], false))
  | append p q =>
    match p.openings with
    | some (words, true) => q.openings.map fun o => (words ++ o.1, o.2)
    | found => found
  | orElse p q =>
    match p.openings, q.openings with
    | some (words, x), some (others, y) => some (words ++ others, x || y)
    | _, _ => none
  | keep _ p => p.openings
  | boundary | lineStart | lineEnd | notAfter _ => some ([], true)
  | one _ | many _ | few _ | iterate _ | again _ => none

theorem of_openings (h : p.openings = some (words, empty)) (ht : p.Takes t) :
    (empty = true ∧ t = []) ∨ ∃ w ∈ words, w <+: t := by
  induction p generalizing words empty t with
  | text s =>
      obtain rfl : t = s := ht
      rw [openings] at h
      split at h
      · next hnil =>
          obtain ⟨rfl, rfl⟩ := Prod.mk.inj (Option.some.inj h)
          exact .inl ⟨rfl, hnil⟩
      · obtain ⟨rfl, rfl⟩ := Prod.mk.inj (Option.some.inj h)
        exact .inr ⟨t, List.mem_singleton_self t, List.prefix_rfl⟩
  | append p q ihp ihq =>
      obtain ⟨a, b, rfl, ha, hb⟩ := ht
      rw [openings] at h
      split at h
      -- Where the first part takes nothing, the second one begins.
      · next hp =>
          obtain ⟨⟨others, y⟩, hq, heq⟩ := Option.map_eq_some_iff.1 h
          obtain ⟨rfl, rfl⟩ := Prod.mk.inj heq
          rcases ihp hp ha with ⟨-, rfl⟩ | ⟨w, hw, hstart⟩
          · rcases ihq hq hb with ⟨hy, rfl⟩ | ⟨w, hw, hstart⟩
            · exact .inl ⟨hy, rfl⟩
            · exact .inr ⟨w, List.mem_append_right _ hw, hstart⟩
          · exact .inr ⟨w, List.mem_append_left _ hw,
              hstart.trans (List.prefix_append a b)⟩
      · next hno =>
          cases empty with
          | true => exact absurd h (hno words)
          | false =>
              obtain ⟨hfalse, -⟩ | ⟨w, hw, hstart⟩ := ihp h ha
              · exact absurd hfalse Bool.false_ne_true
              · exact .inr ⟨w, hw, hstart.trans (List.prefix_append a b)⟩
  | orElse p q ihp ihq =>
      rw [openings] at h
      split at h
      · next hp hq =>
          obtain ⟨rfl, rfl⟩ := Prod.mk.inj (Option.some.inj h)
          rcases ht with ht | ht
          · rcases ihp hp ht with ⟨rfl, rfl⟩ | ⟨w, hw, hstart⟩
            · exact .inl ⟨rfl, rfl⟩
            · exact .inr ⟨w, List.mem_append_left _ hw, hstart⟩
          · rcases ihq hq ht with ⟨rfl, rfl⟩ | ⟨w, hw, hstart⟩
            · exact .inl ⟨Bool.or_true _, rfl⟩
            · exact .inr ⟨w, List.mem_append_right _ hw, hstart⟩
      · exact absurd h nofun
  | keep _ p ih => exact ih h ht
  | boundary | lineStart | lineEnd | notAfter _ =>
      obtain ⟨rfl, rfl⟩ := Prod.mk.inj (Option.some.inj h)
      exact .inl ⟨rfl, ht⟩
  | one _ | many _ | few _ | iterate _ | again _ => exact absurd h nofun

theorem opens_of_openings (h : p.openings = some (words, false)) : p.Opens words :=
  fun _ ht => (of_openings h ht).resolve_left fun hnil => Bool.false_ne_true hnil.1

end Opens

/-! ## Places -/

/-- Whatever every step of a repetition keeps, the repetition keeps. -/
theorem of_mem_closure {step : Cursor → List Cursor} {I : Cursor → Prop}
    (hstep : ∀ c d, I c → d ∈ step c → I d) (hc : I c)
    (h : d ∈ closure step c) : I d := by
  induction c using closure.induct with
  | case1 c ih =>
      rw [closure, List.mem_append] at h
      rcases h with h | h
      · obtain ⟨e, he, hd⟩ := List.mem_flatMap.1 h
        split at hd
        · next hlt => exact ih e hlt (hstep c e hc he) hd
        · exact absurd hd List.not_mem_nil
      · rw [List.mem_singleton.1 h]
        exact hc

/-! ## What each constructor leads to -/

section Ends

variable {test : Char → Bool} {t : Text}

theorem mem_ends_text : d ∈ (text t).ends c ↔ t <+: c.rest ∧ d = c.skip t.length := by
  show (d ∈ if t.isPrefixOf c.rest then [c.skip t.length] else []) ↔ _
  rw [List.mem_ite_nil_right, List.isPrefixOf_iff_prefix, List.mem_singleton]

theorem mem_ends_one :
    d ∈ (one test).ends c ↔ ∃ x rest, c.rest = x :: rest ∧ test x = true ∧
      d = c.next := by
  show (d ∈ if c.rest.head?.any test then [c.next] else []) ↔ _
  rw [List.mem_ite_nil_right, List.mem_singleton]
  cases c.rest <;> simp

theorem mem_ends_many : d ∈ (many test).ends c ↔ d ∈ c.run test := List.mem_reverse

theorem mem_ends_few : d ∈ (few test).ends c ↔ d ∈ c.run test := Iff.rfl

theorem mem_ends_append : d ∈ (p ++ q).ends c ↔ ∃ e ∈ p.ends c, d ∈ q.ends e :=
  List.mem_flatMap

theorem mem_ends_orElse : d ∈ (orElse p q).ends c ↔ d ∈ p.ends c ∨ d ∈ q.ends c :=
  List.mem_append

theorem mem_ends_again : d ∈ (again slot).ends c ↔
    ∃ capture, c.kept? slot = some capture ∧ capture.text <+: c.rest ∧
      d = c.skip capture.text.length := by
  rw [ends]
  cases c.kept? slot <;> simp

theorem mem_ends_boundary : d ∈ boundary.ends c ↔ c.atBoundary = true ∧ d = c := by
  show (d ∈ if c.atBoundary then [c] else []) ↔ _
  rw [List.mem_ite_nil_right, List.mem_singleton]

theorem mem_ends_lineStart : d ∈ lineStart.ends c ↔
    (∀ x ∈ c.before, x = '\n') ∧ d = c := by
  show (d ∈ if c.before.all (· = '\n') then [c] else []) ↔ _
  rw [List.mem_ite_nil_right, List.mem_singleton, Option.all_eq_true]
  simp only [decide_eq_true_eq, Option.mem_def]

theorem mem_ends_lineEnd :
    d ∈ lineEnd.ends c ↔ (∀ x ∈ c.rest.head?, x = '\n') ∧ d = c := by
  show (d ∈ if c.rest.head?.all (· = '\n') then [c] else []) ↔ _
  rw [List.mem_ite_nil_right, List.mem_singleton, Option.all_eq_true]
  simp only [decide_eq_true_eq, Option.mem_def]

theorem mem_ends_notAfter :
    d ∈ (notAfter test).ends c ↔ (∀ x ∈ c.before, test x = false) ∧ d = c := by
  show (d ∈ if c.before.any test then [] else [c]) ↔ _
  rw [List.mem_ite_nil_left, List.mem_singleton, Bool.not_eq_true, Option.any_eq_false]
  simp only [Option.mem_def]

end Ends

/-- A place that a pattern leads to is reached over a text that it takes. -/
theorem takes_of_mem_ends (h : d ∈ p.ends c) : ∃ taken, c.Spans d taken ∧
    p.Takes taken := by
  induction p generalizing c d with
  | text t =>
      obtain ⟨ht, rfl⟩ := mem_ends_text.1 h
      exact ⟨t, Cursor.spans_skip ht, rfl⟩
  | one q =>
      obtain ⟨x, rest, hrest, hx, rfl⟩ := mem_ends_one.1 h
      have hspans : c.Spans (c.skip 1) [x] := Cursor.spans_skip ⟨rest, hrest.symm⟩
      exact ⟨[x], hspans, x, rfl, hx⟩
  | many q => exact (Cursor.of_mem_run (mem_ends_many.1 h)).2
  | few q => exact (Cursor.of_mem_run (mem_ends_few.1 h)).2
  | append p q ihp ihq =>
      obtain ⟨e, he, hd⟩ := mem_ends_append.1 h
      obtain ⟨s, hs, hps⟩ := ihp he
      obtain ⟨t, ht, hqt⟩ := ihq hd
      exact ⟨s ++ t, hs.trans ht, s, t, rfl, hps, hqt⟩
  | orElse p q ihp ihq =>
      rcases mem_ends_orElse.1 h with h | h
      · obtain ⟨t, ht, hp⟩ := ihp h
        exact ⟨t, ht, Or.inl hp⟩
      · obtain ⟨t, ht, hq⟩ := ihq h
        exact ⟨t, ht, Or.inr hq⟩
  | iterate p ih =>
      rw [ends] at h
      refine of_mem_closure (I := fun e => ∃ taken, c.Spans e taken ∧
        (iterate p).Takes taken)
        ?_ ⟨[], .refl c, [], rfl, by simp⟩ h
      rintro a b ⟨s, hs, pieces, rfl, hpieces⟩ hb
      obtain ⟨t, ht, hpt⟩ := ih hb
      refine ⟨_, hs.trans ht, pieces ++ [t], by simp, fun piece hmem => ?_⟩
      rcases List.mem_append.1 hmem with hmem | hmem
      · exact hpieces piece hmem
      · rw [List.mem_singleton.1 hmem]
        exact hpt
  | keep s p ih =>
      obtain ⟨e, he, rfl⟩ := List.mem_map.1 h
      obtain ⟨t, ⟨hr, ho⟩, hp⟩ := ih he
      exact ⟨t, ⟨hr, ho⟩, hp⟩
  | again s =>
      obtain ⟨capture, -, ht, rfl⟩ := mem_ends_again.1 h
      exact ⟨capture.text, Cursor.spans_skip ht, trivial⟩
  | boundary =>
      obtain ⟨-, rfl⟩ := mem_ends_boundary.1 h
      exact ⟨[], .refl d, rfl⟩
  | lineStart =>
      obtain ⟨-, rfl⟩ := mem_ends_lineStart.1 h
      exact ⟨[], .refl d, rfl⟩
  | lineEnd =>
      obtain ⟨-, rfl⟩ := mem_ends_lineEnd.1 h
      exact ⟨[], .refl d, rfl⟩
  | notAfter q =>
      obtain ⟨-, rfl⟩ := mem_ends_notAfter.1 h
      exact ⟨[], .refl d, rfl⟩

/-! ## The beginning of a line -/

/-- A pattern that matches at the beginning of a line only. -/
def StartsLine (p : Pattern) : Prop := ∀ c d, d ∈ p.ends c → ∀ x ∈ c.before, x = '\n'

theorem startsLine_lineStart : StartsLine lineStart :=
  fun _ _ hd => (mem_ends_lineStart.1 hd).1

theorem StartsLine.append (h : StartsLine p) (q : Pattern) : StartsLine (p ++ q) := by
  intro c d hd
  obtain ⟨e, he, -⟩ := mem_ends_append.1 hd
  exact h c e he

/-- The first part of a pattern. -/
def front : Pattern → Pattern
  | append p _ => p.front
  | p => p

theorem startsLine_of_front (h : p.front = lineStart) : StartsLine p := by
  induction p with
  | append p q ihp _ => exact (ihp h).append q
  | lineStart => exact startsLine_lineStart
  | _ => cases h

/-! ## Kept parts -/

theorem text_capture {t : Text} (h : c.Spans d t) :
    (⟨c.offset, c.rest, d.offset - c.offset⟩ : Capture).text = t := by
  rw [Capture.text, h.2, h.1, Nat.add_sub_cancel_left, List.take_left]

/-- What a pattern adds to the parts of a slot passes the slot's test. -/
theorem gains_of_mem_ends (hp : p.Keeps slot Q) (h : d ∈ p.ends c) :
    c.Gains slot Q d := by
  induction p generalizing c d with
  | append p q ihp ihq =>
      obtain ⟨e, he, hd⟩ := mem_ends_append.1 h
      exact (ihp hp.1 he).trans (ihq hp.2 hd)
  | orElse p q ihp ihq =>
      rcases mem_ends_orElse.1 h with h | h
      · exact ihp hp.1 h
      · exact ihq hp.2 h
  | iterate p ih =>
      rw [ends] at h
      exact of_mem_closure (I := c.Gains slot Q) (fun _ _ ha hb => ha.trans (ih hp hb))
        (.of_eq rfl) h
  | keep s p ih =>
      obtain ⟨e, he, rfl⟩ := List.mem_map.1 h
      obtain ⟨t, ht, htakes⟩ := takes_of_mem_ends he
      refine (ih hp.2 he).trans ⟨[_], rfl, fun capture hmem => ?_⟩
      obtain ⟨rfl, rfl⟩ := Prod.mk.inj (List.mem_singleton.1 hmem)
      rw [text_capture ht]
      exact hp.1 rfl t htakes
  | many q => exact .of_eq (Cursor.of_mem_run (mem_ends_many.1 h)).1
  | few q => exact .of_eq (Cursor.of_mem_run (mem_ends_few.1 h)).1
  | text t =>
      obtain ⟨-, rfl⟩ := mem_ends_text.1 h
      exact .of_eq (Cursor.skip_kept c _)
  | one q =>
      obtain ⟨-, -, -, -, rfl⟩ := mem_ends_one.1 h
      exact .of_eq (Cursor.next_kept c)
  | again s =>
      obtain ⟨-, -, -, rfl⟩ := mem_ends_again.1 h
      exact .of_eq (Cursor.skip_kept c _)
  | boundary => exact .of_eq (by rw [(mem_ends_boundary.1 h).2])
  | lineStart => exact .of_eq (by rw [(mem_ends_lineStart.1 h).2])
  | lineEnd => exact .of_eq (by rw [(mem_ends_lineEnd.1 h).2])
  | notAfter q => exact .of_eq (by rw [(mem_ends_notAfter.1 h).2])

/-- A slot in which a pattern keeps nothing stays as it was. -/
theorem kept?_of_mem_ends (hp : p.Keeps slot fun _ => False) (h : d ∈ p.ends c) :
    d.kept? slot = c.kept? slot := by
  obtain ⟨new, hnew, hnone⟩ := gains_of_mem_ends hp h
  have hlookup : new.lookup slot = none := by
    refine List.lookup_eq_none_iff.2 fun entry hentry => ?_
    exact bne_iff_ne.2 fun (heq : slot = entry.1) => hnone entry.2 (heq ▸ hentry)
  rw [Cursor.kept?, hnew, List.lookup_append, hlookup, Option.none_or]
  rfl

theorem rest_of_mem_again {capture : Capture} (h : d ∈ (again slot).ends c)
    (hkept : c.kept? slot = some capture) : c.rest = capture.text ++ d.rest := by
  obtain ⟨other, hother, hagain, rfl⟩ := mem_ends_again.1 h
  obtain rfl : other = capture := Option.some.inj (hother.symm.trans hkept)
  exact (Cursor.spans_skip hagain).1

theorem keeps_true (slot : Slot) (p : Pattern) : p.Keeps slot fun _ => True := by
  induction p with
  | append p q ihp ihq | orElse p q ihp ihq => exact ⟨ihp, ihq⟩
  | iterate p ih => exact ih
  | keep s p ih => exact ⟨fun _ _ _ => trivial, ih⟩
  | _ => trivial

theorem caught_of_mem_ends (hp : p.Catches slot) (h : d ∈ p.ends c) :
    ∃ capture, (slot, capture) ∈ d.kept := by
  induction p generalizing c d with
  | append p q ihp ihq =>
      obtain ⟨e, he, hd⟩ := mem_ends_append.1 h
      rcases hp with hp | hq
      · obtain ⟨capture, hmem⟩ := ihp hp he
        obtain ⟨new, hnew, -⟩ := gains_of_mem_ends (keeps_true slot q) hd
        exact ⟨capture, by rw [hnew]; exact List.mem_append_right _ hmem⟩
      · exact ihq hq hd
  | orElse p q ihp ihq =>
      rcases mem_ends_orElse.1 h with h | h
      · exact ihp hp.1 h
      · exact ihq hp.2 h
  | keep s p ih =>
      obtain ⟨e, he, rfl⟩ := List.mem_map.1 h
      rcases hp with rfl | hp
      · exact ⟨_, List.mem_cons_self⟩
      · obtain ⟨capture, hmem⟩ := ih hp he
        exact ⟨capture, List.mem_cons_of_mem _ hmem⟩
  | _ => exact hp.elim

/-! ## Matches -/

theorem exists_ends_of_matchAt {m : Match} (h : p.matchAt c = some m) :
    ∃ d ∈ p.ends { c with kept := [] }, m.kept = d.kept := by
  obtain ⟨d, hd, rfl⟩ := Option.map_eq_some_iff.1 h
  exact ⟨d, List.mem_of_mem_head? hd, rfl⟩

theorem exists_ends_of_mem_findFrom {before : Option Char} {offset wait : Nat}
    {t : Text} {m : Match} (h : m ∈ p.findFrom before offset wait t) :
    ∃ c d : Cursor, c.kept = [] ∧ d ∈ p.ends c ∧ m.kept = d.kept := by
  have here {c : Cursor} (hm : p.matchAt c = some m) :
      ∃ c d : Cursor, c.kept = [] ∧ d ∈ p.ends c ∧ m.kept = d.kept := by
    obtain ⟨d, hd, hk⟩ := exists_ends_of_matchAt hm
    exact ⟨_, d, rfl, hd, hk⟩
  induction t generalizing before offset wait with
  | nil =>
      rw [findFrom] at h
      split at h
      · exact here (Option.mem_toList.1 h)
      · exact absurd h List.not_mem_nil
  | cons x t ih =>
      cases wait with
      | succ wait => exact ih h
      | zero =>
          rw [findFrom] at h
          split at h
          · next n hn =>
              rcases List.mem_cons.1 h with rfl | h
              · exact here hn
              · exact ih h
          · exact ih h

/-- What a match in a text kept in a slot is a text that the pattern keeps there. -/
theorem of_part?_eq_some {t s : Text} {m : Match} (hp : p.Keeps slot Q)
    (h : m ∈ p.findAll t) (hs : m.part? slot = some s) : Q s := by
  obtain ⟨c, d, hc, hd, hk⟩ := exists_ends_of_mem_findFrom h
  obtain ⟨new, hnew, hQ⟩ := gains_of_mem_ends hp hd
  rw [hc, List.append_nil] at hnew
  obtain ⟨capture, hl, rfl⟩ := Option.map_eq_some_iff.1 hs
  obtain ⟨before, after, he, -⟩ := List.lookup_eq_some_iff.1 hl
  exact hQ capture (by rw [← hnew, ← hk, he]; simp)

theorem part?_ne_none {t : Text} {m : Match} (hp : p.Catches slot) (h : m ∈ p.findAll t) :
    m.part? slot ≠ none := by
  obtain ⟨c, d, -, hd, hk⟩ := exists_ends_of_mem_findFrom h
  obtain ⟨capture, hmem⟩ := caught_of_mem_ends hp hd
  rw [Match.part?, hk, ne_eq, Option.map_eq_none_iff, List.lookup_eq_none_iff]
  exact fun hnone => by simpa using hnone _ hmem

/-- Where every way keeps a part, the part of a match is one of those that the pattern
keeps. -/
theorem of_part {t : Text} {m : Match} (hp : p.Keeps slot Q) (hc : p.Catches slot)
    (h : m ∈ p.findAll t) : Q (m.part slot) := by
  obtain ⟨s, hs⟩ := Option.ne_none_iff_exists'.1 (part?_ne_none hc h)
  rw [Match.part, hs, Option.getD_some]
  exact of_part?_eq_some hp h hs

end Pattern

end ImpactGraph
