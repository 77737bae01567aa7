import ImpactGraph.Glob

/-!
# What a set in a glob stands for

A set is read in four passes: it is cut at the hyphens of its ranges, a hyphen at
the end is put back, ranges whose ends are the wrong way round are taken out, and
the ranges are made from the ends of neighbouring chunks. A reader takes it in
one: two characters with a hyphen between them are a range and any other
character stands for itself (`memberRanges`). The passes come to the same because
together they follow that reading member by member: `kept` says what the first
three leave of a text from its first member and of the rest.

One thing the reader would not expect. Whether a set is a complement is asked
last, when the ranges without members are gone; so behind such ranges an
exclamation mark begins a complement although it does not begin the set. The set
`b-a!c` holds everything but `c`.
-/

namespace ImpactGraph.Glob

variable {c low high : Char} {rest members : Text}

/-- The ranges of the members of a set: two characters with a hyphen between them, or a
character that stands for itself. -/
def memberRanges : Text → List (Char × Char)
  | low :: '-' :: high :: rest => (low, high) :: memberRanges rest
  | c :: rest => (c, c) :: memberRanges rest
  | [] => []

/-- One of the members of a set is this character or has it between its ends. -/
def IsMember (members : Text) (c : Char) : Prop := ∃ r ∈ memberRanges members,
    r.1 ≤ c ∧ c ≤ r.2

instance : Decidable (IsMember members c) :=
  inferInstanceAs (Decidable (∃ r ∈ memberRanges members, r.1 ≤ c ∧ c ≤ r.2))

/-- A set as it is written: a complement when it begins with an exclamation mark. -/
def Holds (body : Text) (c : Char) : Prop :=
  match body with
  | '!' :: members => ¬ IsMember members c
  | members => IsMember members c

/-- The members behind the ranges that come first and have their ends the wrong way
round. -/
def behindEmpty : Text → Text
  | low :: '-' :: high :: rest =>
    if high < low then behindEmpty rest else low :: '-' :: high :: rest
  | members => members

/-- A set as it is read: a complement also when an exclamation mark comes next behind
ranges that have their ends the wrong way round. A range that starts with that mark leaves
its hyphen and its end. -/
def Admits (body : Text) (c : Char) : Prop :=
  if body.head? = some '!' then ¬ IsMember body.tail c
  else
    match behindEmpty body with
    | '!' :: '-' :: high :: rest => ¬ (c = '-' ∨ c = high ∨ IsMember rest c)
    | '!' :: rest => ¬ IsMember rest c
    | _ => IsMember body c

/-! ## Chunks -/

/-- A character put in front of the first chunk. -/
def lead (c : Char) : List Text → List Text
  | [] => [[c]]
  | chunk :: more => (c :: chunk) :: more

theorem chunks_cons (wait : Nat) (c : Char) (rest : Text) :
    chunks wait (c :: rest) =
      if c = '-' ∧ wait = 0 then [] :: chunks 2 rest else
        lead c (chunks (wait - 1) rest) := by
  rw [chunks]
  simp only [Bool.and_eq_true, decide_eq_true_eq]
  split
  · rfl
  · cases chunks (wait - 1) rest <;> rfl

theorem chunks_ne_nil (wait : Nat) (t : Text) : chunks wait t ≠ [] := by
  cases t with
  | nil => simp [chunks]
  | cons c rest =>
      rw [chunks_cons]
      split
      · simp
      · cases chunks (wait - 1) rest <;> simp [lead]

theorem closeRange_lead {L : List Text} (h : L ≠ []) (c : Char) :
    closeRange (lead c L) = lead c (closeRange L) := by
  match L with
  | [] => exact absurd rfl h
  | [chunk] => rfl
  | [chunk, []] => rfl
  | [chunk, d :: next] => rfl
  | chunk :: next :: other :: more => cases next <;> rfl

theorem dropEmptyRanges_lead {chunk : Text} {more : List Text}
    (h : chunk ≠ []) (c : Char) :
    dropEmptyRanges ((c :: chunk) :: more) =
      lead c (dropEmptyRanges (chunk :: more)) := by
  obtain ⟨d, chunk, rfl⟩ := List.exists_cons_of_ne_nil h
  rw [dropEmptyRanges, dropEmptyRanges, List.getLast?_cons_cons]
  cases hlast : (d :: chunk).getLast? with
  | none => rfl
  | some low =>
      match dropEmptyRanges more with
      | [] => rfl
      | [] :: others => rfl
      | (high :: next) :: others =>
          simp only []
          split <;> rfl

/-- What the passes leave of the members of a set, chunk by chunk. -/
def kept (members : Text) : List Text := dropEmptyRanges (closeRange (chunks 1 members))

theorem exists_lead (c : Char) (L : List Text) :
    ∃ chunk more, lead c L = (c :: chunk) :: more := by
  cases L with
  | nil => exact ⟨[], [], rfl⟩
  | cons chunk more => exact ⟨chunk, more, rfl⟩

theorem closeRange_ne_nil {L : List Text} (h : L ≠ []) : closeRange L ≠ [] := by
  match L with
  | [] => exact absurd rfl h
  | [chunk] => simp [closeRange]
  | [chunk, []] => simp [closeRange]
  | [chunk, d :: next] => simp [closeRange]
  | chunk :: next :: other :: more => cases next <;> simp [closeRange]

theorem dropEmptyRanges_ne_nil {L : List Text} (h : L ≠ []) : dropEmptyRanges L ≠ [] := by
  obtain ⟨chunk, more, rfl⟩ := List.exists_cons_of_ne_nil h
  rw [dropEmptyRanges]
  split
  · split <;> simp
  · simp

theorem kept_ne_nil (members : Text) : kept members ≠ [] :=
  dropEmptyRanges_ne_nil (closeRange_ne_nil (chunks_ne_nil _ _))

theorem kept_nil : kept [] = [[]] := rfl

/-- The passes after the first go through a character in front of the members. -/
theorem dropEmptyRanges_closeRange_lead (c : Char) (members : Text) :
    dropEmptyRanges (closeRange (lead c (chunks 1 members))) = lead c (kept members) := by
  cases members with
  | nil => rfl
  | cons d rest =>
      rw [closeRange_lead (chunks_ne_nil _ _), kept, chunks_cons, if_neg (by simp),
        closeRange_lead (chunks_ne_nil _ _)]
      obtain ⟨chunk, more, hchunk⟩ := exists_lead d (closeRange (chunks (1 - 1) rest))
      rw [hchunk]
      exact dropEmptyRanges_lead (by simp) c

theorem kept_cons (h : ∀ high next, rest ≠ '-' :: high :: next) (c : Char) :
    kept (c :: rest) = lead c (kept rest) := by
  rw [← dropEmptyRanges_closeRange_lead, kept, chunks_cons, if_neg (by simp)]
  cases rest with
  | nil => rfl
  | cons d rest =>
      by_cases hd : d = '-'
      · subst hd
        cases rest with
        | nil => rfl
        | cons high next => exact absurd rfl (h high next)
      · rw [chunks_cons, if_neg (by simp [hd]), chunks_cons, if_neg (by simp)]

theorem kept_range (low high : Char) (rest : Text) :
    kept (low :: '-' :: high :: rest) =
      if high < low then kept rest else [low] :: lead high (kept rest) := by
  have hchunks : chunks 1 (low :: '-' :: high :: rest) =
      [low] :: lead high (chunks 1 rest) := by
    rw [chunks_cons, if_neg (by simp), chunks_cons, if_pos (by simp), chunks_cons,
      if_neg (by simp)]
    rfl
  have hclose : closeRange ([low] :: lead high (chunks 1 rest)) =
      [low] :: closeRange (lead high (chunks 1 rest)) := by
    obtain ⟨chunk, more, hlead⟩ := exists_lead high (chunks 1 rest)
    rw [hlead]
    cases more <;> rfl
  obtain ⟨next, others, hkept⟩ := List.exists_cons_of_ne_nil (kept_ne_nil rest)
  rw [kept, hchunks, hclose, dropEmptyRanges, dropEmptyRanges_closeRange_lead, hkept]
  rfl

/-- Only where no member is left is the first chunk empty. -/
theorem kept_of_empty {others : List Text} (h : kept members = [] :: others) :
    others = [] := by
  fun_induction memberRanges members with
  | case1 low high rest ih =>
      rw [kept_range] at h
      split at h
      · exact ih h
      · cases h
  | case2 c rest hrange ih =>
      rw [kept_cons hrange] at h
      obtain ⟨chunk, more, hlead⟩ := exists_lead c (kept rest)
      rw [hlead] at h
      cases h
  | case3 =>
      rw [kept_nil] at h
      exact (List.cons.inj h).2.symm

/-! ## Ranges -/

theorem rangesOf_lead (c : Char) (members : Text) :
    rangesOf (lead c (kept members)) = (c, c) :: rangesOf (kept members) := by
  obtain ⟨chunk, more, hkept⟩ := List.exists_cons_of_ne_nil (kept_ne_nil members)
  rw [hkept]
  cases chunk with
  | nil =>
      obtain rfl := kept_of_empty hkept
      rw [lead, rangesOf, rangesOf]
      rfl
  | cons d chunk =>
      cases more with
      | nil =>
          rw [lead, rangesOf, rangesOf]
          rfl
      | cons next others =>
          cases next with
          | nil =>
              rw [lead, rangesOf, rangesOf]
              rfl
          | cons high next =>
              rw [lead, rangesOf, rangesOf, List.getLast?_cons_cons]
              cases hlast : (d :: chunk).getLast? with
              | none => exact absurd hlast (by simp)
              | some low => rfl

/-- The ranges that are made are those of the members, without the ones that hold
nothing. -/
theorem rangesOf_kept (members : Text) :
    rangesOf (kept members) = (memberRanges members).filter fun r => ¬ r.2 < r.1 := by
  fun_induction memberRanges members with
  | case1 low high rest ih =>
      rw [kept_range]
      split
      · next hlt => rw [ih, List.filter_cons_of_neg (by simp [hlt])]
      · next hle =>
          rw [List.filter_cons_of_pos (by simp [hle]), ← ih]
          obtain ⟨next, others, hkept⟩ := List.exists_cons_of_ne_nil (kept_ne_nil rest)
          rw [hkept, lead, rangesOf]
          rfl
  | case2 c rest hrange ih =>
      rw [kept_cons hrange, rangesOf_lead, ih, List.filter_cons_of_pos (by simp)]
  | case3 =>
      rw [kept_nil, rangesOf]
      rfl

/-- Whether a character lies in one of some ranges. -/
def inRanges (ranges : List (Char × Char)) (c : Char) : Bool :=
  ranges.any fun r => r.1 ≤ c && c ≤ r.2

theorem inRanges_cons (r : Char × Char) (ranges : List (Char × Char)) (c : Char) :
    inRanges (r :: ranges) c = true ↔ (r.1 ≤ c ∧ c ≤ r.2) ∨ inRanges ranges c = true := by
  simp only [inRanges, List.any_cons, Bool.or_eq_true, Bool.and_eq_true,
    decide_eq_true_eq]

theorem inRanges_kept : inRanges (rangesOf (kept members)) c = true ↔
    IsMember members c := by
  rw [rangesOf_kept, inRanges, List.any_eq_true]
  simp only [List.mem_filter, Bool.and_eq_true, decide_eq_true_eq, IsMember]
  constructor
  · rintro ⟨r, ⟨hr, -⟩, hc⟩
    exact ⟨r, hr, hc⟩
  · rintro ⟨r, hr, hc⟩
    exact ⟨r, ⟨hr, Char.not_lt.2 (Char.le_trans hc.1 hc.2)⟩, hc⟩

/-! ## The sign of a set -/

theorem kept_behindEmpty (members : Text) :
    kept (behindEmpty members) = kept members := by
  fun_induction behindEmpty members with
  | case1 low high rest hlt ih => rw [ih, kept_range, if_pos hlt]
  | case2 low high rest hle => rfl
  | case3 members hno => rfl

theorem not_lt_of_behindEmpty (h : behindEmpty members = low :: '-' :: high :: rest) :
    ¬ high < low := by
  fun_induction behindEmpty members with
  | case1 low' high' rest' hlt ih => exact ih h
  | case2 low' high' rest' hle =>
      obtain ⟨rfl, -, rfl, -⟩ : low' = low ∧ '-' = '-' ∧ high' = high ∧ rest' = rest := by
        simpa using h
      exact hle
  | case3 members hno => exact absurd h (hno low high rest)

theorem setOf_marked (members : Text) :
    setOf ('!' :: members) = .set true (rangesOf (kept members)) := by
  obtain ⟨chunk, more, hkept⟩ := List.exists_cons_of_ne_nil (kept_ne_nil members)
  have hlead : dropEmptyRanges (closeRange (chunks 2 ('!' :: members))) =
      ('!' :: chunk) :: more := by
    rw [chunks_cons, if_neg (by simp), dropEmptyRanges_closeRange_lead, hkept]
    rfl
  simp only [setOf, List.head?_cons, if_true, hlead, hkept]

variable {body first : Text} {others : List Text}

theorem setOf_complement (h : body.head? ≠ some '!')
    (hkept : kept body = ('!' :: first) :: others) :
    setOf body = .set true (rangesOf (first :: others)) := by
  rw [kept] at hkept
  simp only [setOf, if_neg h, hkept]

theorem setOf_plain (h : body.head? ≠ some '!')
    (hkept : ∀ first others, kept body ≠ ('!' :: first) :: others) :
    setOf body = .set false (rangesOf (kept body)) := by
  simp only [setOf, if_neg h]
  split
  · next first others hmark => exact absurd hmark (hkept first others)
  · rfl

/-- The mark that the passes leave in front is the one behind the empty ranges. -/
theorem exists_behindEmpty (hkept : kept members = ('!' :: first) :: others) :
    ∃ rest, behindEmpty members = '!' :: rest := by
  rw [← kept_behindEmpty] at hkept
  cases hbehind : behindEmpty members with
  | nil =>
      rw [hbehind, kept_nil] at hkept
      cases hkept
  | cons low rest =>
      rw [hbehind] at hkept
      have hlow : low = '!' := by
        by_cases hrange : ∃ high next, rest = '-' :: high :: next
        · obtain ⟨high, next, rfl⟩ := hrange
          rw [kept_range, if_neg (not_lt_of_behindEmpty hbehind)] at hkept
          exact (List.cons.inj (List.cons.inj hkept).1).1
        · rw [kept_cons fun high next he => hrange ⟨high, next, he⟩] at hkept
          obtain ⟨chunk, more, hlead⟩ := exists_lead low (kept rest)
          rw [hlead] at hkept
          exact (List.cons.inj (List.cons.inj hkept).1).1
      exact ⟨rest, hlow ▸ rfl⟩

theorem between_self : (low ≤ c ∧ c ≤ low) ↔ c = low :=
  ⟨fun h => Char.le_antisymm h.2 h.1, fun h => h ▸ ⟨Char.le_refl c, Char.le_refl c⟩⟩

/-- What is left when a range that starts with an exclamation mark has lost it. -/
theorem inRanges_unmarked (high : Char) (rest : Text) :
    inRanges (rangesOf ([] :: lead high (kept rest))) c = true ↔
      c = '-' ∨ c = high ∨ IsMember rest c := by
  have hranges : rangesOf ([] :: lead high (kept rest)) =
      ('-', '-') :: rangesOf (lead high (kept rest)) := by
    obtain ⟨chunk, more, hlead⟩ := exists_lead high (kept rest)
    rw [hlead, rangesOf]
    rfl
  rw [hranges, rangesOf_lead, inRanges_cons, inRanges_cons, inRanges_kept, between_self,
    between_self]

/-- A set stands for the characters that it admits. -/
theorem setOf_admits (body : Text) : ∃ negated ranges, setOf body = .set negated ranges ∧
    ∀ c, (inRanges ranges c != negated) = true ↔ Admits body c := by
  have hnot (ranges : List (Char × Char)) (c : Char) :
      (inRanges ranges c != true) = true ↔ ¬ inRanges ranges c = true := by simp
  have hsame (ranges : List (Char × Char)) (c : Char) :
      (inRanges ranges c != false) = true ↔ inRanges ranges c = true := by simp
  by_cases hhead : body.head? = some '!'
  · obtain ⟨members, rfl⟩ := List.head?_eq_some_iff.1 hhead
    refine ⟨_, _, setOf_marked members, fun c => ?_⟩
    rw [hnot, inRanges_kept, Admits, if_pos hhead, List.tail_cons]
  simp only [Admits, if_neg hhead]
  have hkept := kept_behindEmpty body
  split
  · next high rest hbehind =>
      rw [hbehind, kept_range, if_neg (not_lt_of_behindEmpty hbehind)] at hkept
      refine ⟨_, _, setOf_complement hhead hkept.symm, fun c => ?_⟩
      rw [hnot, inRanges_unmarked]
  · next rest hrange hbehind =>
      obtain ⟨chunk, more, hrest⟩ := List.exists_cons_of_ne_nil (kept_ne_nil rest)
      rw [hbehind, kept_cons fun high next he =>
        hrange high next he, hrest, lead] at hkept
      refine ⟨_, _, setOf_complement hhead hkept.symm, fun c => ?_⟩
      rw [hnot, ← hrest, inRanges_kept]
  · next hmark =>
      refine ⟨_, _, setOf_plain hhead fun first others he => ?_, fun c => ?_⟩
      · obtain ⟨rest, hrest⟩ := exists_behindEmpty he
        exact hmark rest hrest
      · rw [hsame, inRanges_kept]

/-- A set is read as it is written, unless ranges without members stand before an
exclamation mark. -/
theorem admits_iff_holds
    (h : body.head? = some '!' ∨ (behindEmpty body).head? ≠ some '!') :
    Admits body c ↔ Holds body c := by
  by_cases hhead : body.head? = some '!'
  · obtain ⟨members, rfl⟩ := List.head?_eq_some_iff.1 hhead
    rw [Admits, if_pos hhead]
    rfl
  · have hbehind := h.resolve_left hhead
    rw [Admits, if_neg hhead]
    split
    · next heq => exact absurd (by rw [heq]; rfl) hbehind
    · next heq => exact absurd (by rw [heq]; rfl) hbehind
    · unfold Holds
      split
      · exact absurd rfl hhead
      · rfl

end ImpactGraph.Glob
