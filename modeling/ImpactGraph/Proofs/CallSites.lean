import ImpactGraph.Calls
import ImpactGraph.Proofs.PatternParts
import ImpactGraph.Proofs.TextParts

/-!
# Call sites of a text

A call site is described without a search: a name, blanks and an opening
parenthesis, and in front of the name no character that would make it the end of
a longer word or the member of something. The search finds all of them and
nothing else, each once and in the order of the text.

Two facts about the description do the work. What follows the name is no part of
a name, so there is one way to read a site, and the greedy pattern takes it. And
no site begins inside another one: a place inside is behind a letter, or stands
at a blank or at the parenthesis. So the search never has to pass over a site.
-/

namespace ImpactGraph

open Text Pattern

/-- The name of a symbol: a letter of ASCII, a low line or a dollar sign, and more parts
of a name. -/
def IsSymbol (name : Text) : Prop :=
  ∃ x rest, name = x :: rest ∧ isIdentifierStart x = true ∧ ∀ y ∈ rest,
  isIdentifierPart y = true

/-- A character behind which no call begins. -/
def continues (c : Char) : Bool := isIdentifierPart c || c = '.'

/-- A name stands at an offset of a text, goes on neither a word nor a member access, and
has an opening parenthesis behind it, perhaps after blanks. -/
def IsCallSite (content : Text) (offset : Nat) (name : Text) : Prop :=
  ∃ u gap v, content = u ++ (name ++ gap ++ '(' :: v) ∧ u.length = offset ∧
    (∀ x ∈ u.getLast?, continues x = false) ∧ IsSymbol name ∧ ∀ x ∈ gap, isBlank x = true

/-- The call sites that the search finds: offsets and names. -/
def callSites (content : Text) : List (Nat × Text) :=
  (callSite.findAll content).map fun m => (m.start, m.part .name)

section Sites

variable {c : Cursor} {m : Match} {name gap v content : Text} {offset : Nat}

/-! ## One site -/

theorem IsSymbol.parts (h : IsSymbol name) : ∀ x ∈ name, isIdentifierPart x = true := by
  obtain ⟨x, rest, rfl, hx, hrest⟩ := h
  exact List.forall_mem_cons.2 ⟨isIdentifierPart_of_isIdentifierStart hx, hrest⟩

theorem IsSymbol.ne_nil (h : IsSymbol name) : name ≠ [] := by
  obtain ⟨x, rest, rfl, -⟩ := h
  exact List.cons_ne_nil x rest

/-- Behind the name is a blank or the parenthesis, and neither is part of a name. -/
theorem isIdentifierPart_behind (hgap : ∀ x ∈ gap, isBlank x = true) :
    ∀ x ∈ (gap ++ '(' :: v).head?, isIdentifierPart x = false := by
  intro x hx
  cases gap with
  | nil =>
      obtain rfl : '(' = x := Option.some.inj hx
      decide
  | cons y gap =>
      obtain rfl : y = x := Option.some.inj hx
      refine Bool.eq_false_iff.2 fun hpart => ?_
      have hblank := hgap y List.mem_cons_self
      rw [isBlank_of_isIdentifierPart hpart] at hblank
      exact absurd hblank (by simp)

theorem first_notAfter {β : Type} {next : Cursor → Option β} {test : Char → Bool} {r : β}
    (hbefore : ∀ x ∈ c.before, test x = false) (h : next c = some r) :
    (notAfter test).first next c = some r := by
  have hany : ¬ c.before.any test = true := by
    cases hc : c.before with
    | none => simp
    | some x => simp [hbefore x hc]
  rw [first, ends, if_neg hany, List.findSome?_singleton, h]

/-- At a call site the pattern matches the site and keeps its name. -/
theorem exists_matchAt_callSite (hrest : c.rest = name ++ gap ++ '(' :: v)
    (hbefore : ∀ x ∈ c.before, continues x = false) (hname : IsSymbol name)
    (hgap : ∀ x ∈ gap, isBlank x = true) :
    ∃ m, callSite.matchAt c = some m ∧ m.text = name ++ gap ++ ['('] ∧
      m.part .name = name ∧
      m.startOf .name = c.offset := by
  obtain ⟨x, rest, rfl, hx, hparts⟩ := hname
  have hrest : c.rest = x :: (rest ++ (gap ++ '(' :: v)) := by
    rw [hrest]
    simp
  let start : Cursor := { c with kept := [] }
  let named := (start.past (x :: rest) (gap ++ '(' :: v)).keeping .name start
  let d := (named.past gap ('(' :: v)).past "(".toList v
  have hfirst : callSite.first some start = some d := by
    simp only [callSite, first_append]
    refine first_notAfter hbefore ?_
    rw [first_keep, first_append]
    refine first_one hrest hx
      (first_many Cursor.past_rest hparts (isIdentifierPart_behind hgap) ?_)
    rw [Cursor.past_past]
    have hnamed : named.rest = gap ++ '(' :: v := rfl
    exact first_many hnamed hgap (by rintro y ⟨⟩; decide)
      (first_word Cursor.past_rest rfl)
  have hspan : start.Spans d ((x :: rest) ++ gap ++ ['(']) := by
    refine ⟨?_, ?_⟩
    · show c.rest = _
      rw [hrest]
      simp [d]
    · show c.offset + (x :: rest).length + gap.length + "(".toList.length = c.offset + _
      rw [List.length_append, List.length_append, Nat.add_assoc, Nat.add_assoc]
      rfl
  refine ⟨c.matchTo d, matchAt_of_first hfirst, ?_, ?_, rfl⟩
  · exact Cursor.matchTo_text (c := start) hspan
  · exact part_of_lookup (c := start) (d := start.past (x :: rest) (gap ++ '(' :: v)) rfl
      (Cursor.spans_past hrest)

/-- The pattern matches at call sites only. -/
theorem of_matchAt_callSite (h : callSite.matchAt c = some m) :
    (∀ x ∈ c.before, continues x = false) ∧ ∃ name gap v,
      c.rest = name ++ gap ++ '(' :: v ∧
      IsSymbol name ∧ ∀ x ∈ gap, isBlank x = true := by
  obtain ⟨d, hd, -⟩ := exists_ends_of_matchAt h
  obtain ⟨f, hf, hd⟩ := mem_ends_append.1 hd
  obtain ⟨e, he, hf⟩ := mem_ends_append.1 hf
  obtain ⟨b, hb, he⟩ := mem_ends_append.1 he
  obtain ⟨hbefore, rfl⟩ := mem_ends_notAfter.1 hb
  obtain ⟨name, ⟨hname, -⟩, _, rest, rfl, ⟨x, rfl, hx⟩, hrest⟩ := takes_of_mem_ends he
  obtain ⟨gap, ⟨hgap, -⟩, hblank⟩ := takes_of_mem_ends hf
  obtain ⟨_, ⟨hparen, -⟩, rfl⟩ := takes_of_mem_ends hd
  refine ⟨hbefore, [x] ++ rest, gap, d.rest, ?_, ⟨x, rest, rfl, hx, hrest⟩, hblank⟩
  show c.rest = _
  rw [List.append_assoc, show c.rest = [x] ++ rest ++ e.rest from hname, hgap, hparen]
  rfl

/-! ## All sites -/

theorem place_before (u v : Text) : ((Cursor.ofText content).past u v).before =
    u.getLast? := by
  show u.getLast?.or none = u.getLast?
  exact Option.or_none

/-- What the search finds at a match: a call site, and the name that stands there. -/
theorem isCallSite_of_mem_findAll (h : m ∈ callSite.findAll content) :
    IsCallSite content m.start (m.part .name) ∧ m.startOf .name = m.start ∧
      m.text ≠ [] := by
  obtain ⟨u, v, rfl, hm⟩ := exists_place_of_mem_findAll h
  obtain ⟨hbefore, name, gap, rest, hrest, hname, hgap⟩ := of_matchAt_callSite hm
  obtain ⟨m', hm', htext, hpart, hstartOf⟩ :=
    exists_matchAt_callSite hrest hbefore hname hgap
  obtain rfl : m = m' := Option.some.inj (hm.symm.trans hm')
  have hstart : m.start = 0 + u.length := start_of_matchAt hm
  rw [Nat.zero_add] at hstart
  rw [place_before] at hbefore
  refine ⟨⟨u, gap, rest, ?_, hstart.symm, hbefore, hpart ▸ hname, hgap⟩, ?_, ?_⟩
  · rw [hpart]
    exact congrArg (u ++ ·) hrest
  · rw [hstartOf, hstart]
    exact Nat.zero_add _
  · rw [htext]
    simp

/-- No site begins inside another: a place there is behind a part of the name, or no part
follows. -/
theorem parts_inside {s w : Text} (hname : IsSymbol name)
    (hgap : ∀ x ∈ gap, isBlank x = true) (hsplit : name ++ gap ++ '(' :: v = s ++ w)
    (hne : s ≠ []) (hlt : s.length < (name ++ gap ++ ['(']).length) :
    (∃ x ∈ s.getLast?, isIdentifierPart x = true) ∨ ∀ x ∈ w.head?,
      isIdentifierPart x = false := by
  rw [List.append_assoc] at hsplit
  rcases List.append_eq_append_iff.1 hsplit with ⟨a, rfl, hrest⟩ | ⟨a, rfl, -⟩
  · rcases List.append_eq_append_iff.1 hrest with ⟨b, rfl, hw⟩ | ⟨b, rfl, rfl⟩
    · have hlength : b.length = 0 := by
        simp only [List.length_append, List.length_singleton] at hlt
        omega
      obtain rfl := List.eq_nil_of_length_eq_zero hlength
      rw [List.nil_append] at hw
      exact .inr (hw ▸ @isIdentifierPart_behind [] v (List.forall_mem_nil _))
    · exact .inr (isIdentifierPart_behind fun x hx => hgap x (List.mem_append_right a hx))
  · refine .inl ⟨s.getLast hne, List.getLast?_eq_some_getLast hne, ?_⟩
    exact hname.parts _ (List.mem_append_left a (List.getLast_mem hne))

/-- A match that begins before a site is over where the site begins. -/
theorem end_le_of_isCallSite (h : IsCallSite content offset name)
    (hm : m ∈ callSite.findAll content) (hlt : m.start < offset) :
    m.start + m.text.length ≤ offset := by
  obtain ⟨u, gap, v, rfl, rfl, hbefore, hname, hgap⟩ := h
  obtain ⟨u', w, hsplit, hm⟩ := exists_place_of_mem_findAll hm
  obtain ⟨hbefore', name', gap', v', hrest, hname', hgap'⟩ := of_matchAt_callSite hm
  obtain ⟨m', hm', htext, -⟩ := exists_matchAt_callSite hrest hbefore' hname' hgap'
  obtain rfl : m = m' := Option.some.inj (hm.symm.trans hm')
  have hstart : m.start = 0 + u'.length := start_of_matchAt hm
  have hw : w = name' ++ gap' ++ '(' :: v' := hrest
  refine Nat.le_of_not_lt fun hcovers => ?_
  rcases List.append_eq_append_iff.1 hsplit with ⟨s, rfl, -⟩ | ⟨s, rfl, hinside⟩
  · rw [List.length_append] at hstart
    omega
  · -- The site begins behind the characters `s` of the match.
    have hne : s ≠ [] := by
      rintro rfl
      rw [List.append_nil] at hlt
      omega
    rw [List.length_append, htext] at hcovers
    rw [hw] at hinside
    rcases parts_inside hname' hgap' hinside hne (by omega) with ⟨x, hx, hpart⟩ | hnone
    · have hcontinues : continues x = true := by
        rw [continues, hpart, Bool.true_or]
      have hlast : (u' ++ s).getLast? = some x := by
        rw [List.getLast?_append_of_ne_nil _ hne]
        exact hx
      rw [hbefore x hlast] at hcontinues
      exact absurd hcontinues (by simp)
    · obtain ⟨x, rest, rfl, hx, -⟩ := hname
      have hpart := isIdentifierPart_of_isIdentifierStart hx
      rw [hnone x rfl] at hpart
      exact absurd hpart (by simp)

/-- Every call site is found. -/
theorem exists_mem_findAll (h : IsCallSite content offset name) :
    ∃ m ∈ callSite.findAll content, m.start = offset ∧ m.part .name = name := by
  have hsite := h
  obtain ⟨u, gap, v, ht, rfl, hbefore, hname, hgap⟩ := h
  have hplace : ∀ x ∈ ((Cursor.ofText content).past u (name ++ gap ++ '(' :: v)).before,
      continues x = false := by
    rwa [place_before]
  obtain ⟨m, hm, -, hpart, -⟩ := exists_matchAt_callSite rfl hplace hname hgap
  have hstart : m.start = 0 + u.length := start_of_matchAt hm
  rcases mem_findAll_or_covered hm ht with hfound | ⟨n, hn, hlt, hcovers⟩
  · exact ⟨m, hfound, hstart.trans (Nat.zero_add _), hpart⟩
  · have hend := end_le_of_isCallSite hsite hn hlt
    omega

theorem mem_callSites_iff : (offset, name) ∈ callSites content ↔
    IsCallSite content offset name := by
  rw [callSites, List.mem_map]
  constructor
  · rintro ⟨m, hm, he⟩
    obtain ⟨rfl, rfl⟩ := Prod.mk.inj he
    exact (isCallSite_of_mem_findAll hm).1
  · intro h
    obtain ⟨m, hm, rfl, rfl⟩ := exists_mem_findAll h
    exact ⟨m, hm, rfl⟩

/-- The sites are found in the order of the text, and none twice. -/
theorem pairwise_callSites (content : Text) :
    (callSites content).Pairwise fun a b => a.1 < b.1 := by
  rw [callSites, List.pairwise_map]
  refine (pairwise_findAll callSite content).imp_of_mem fun {m n} hm _ hle => ?_
  have hpos : 0 < m.text.length :=
    List.length_pos_iff.2 (isCallSite_of_mem_findAll hm).2.2
  show m.start < n.start
  omega

end Sites

end ImpactGraph
