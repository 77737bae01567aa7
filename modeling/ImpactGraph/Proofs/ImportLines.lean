import ImpactGraph.Proofs.ImportClauses
import ImpactGraph.Proofs.TextBlocks

/-!
# Import statements on lines of their own

A statement is printed on one line: its lead, the module in quotes and a
semicolon. Both patterns for imports end in a quoted module, and between the
quotes of a line there is nothing but its module, so a match in a line can only
stop at that module (`lead_of_specifier`). What stands before it then tells the
two kinds of statement apart: the lead of one with a clause ends in `from`, the
other is nothing but `import`.

The clause is taken as short as possible. It is not cut before its end, because
what follows `from` would have to be the module, and from there back to the end
of the clause there are only blanks.
-/

namespace ImpactGraph.Rules.JavaScript

open Text Pattern

/-! ## The grammar -/

/-- A module that needs no escapes in its quotes. -/
structure IsSource (source : Text) : Prop where
  ne_nil : source ≠ []
  clean : ∀ c ∈ source, isBlank c = false ∧ c ≠ '\'' ∧ c ≠ '"'

/-- A statement that brings a module into a file, for its effects or with names. -/
inductive Statement where
  | effects (source : Text)
  | brings (clause : Clause) (source : Text)
  deriving DecidableEq, Repr

/-- The word that marks a statement as one of types only. -/
def Clause.mark (clause : Clause) : Text := if clause.typeOnly then "type ".toList else []

namespace Statement

def source : Statement → Text
  | effects source | brings _ source => source

/-- What stands before the quotes. -/
def lead : Statement → Text
  | effects _ => "import ".toList
  | brings clause _ => "import ".toList ++ clause.mark ++ clause.text ++ " from ".toList

/-- The statement without its semicolon. -/
def body (s : Statement) : Text := s.lead ++ '\'' :: (s.source ++ ['\''])

def text (s : Statement) : Text := s.body ++ [';']

def IsProper : Statement → Prop
  | effects source => IsSource source
  | brings clause source => clause.IsProper ∧ IsSource source

theorem lead_effects (source : Text) : (effects source).lead = "import ".toList := rfl
theorem lead_brings (clause : Clause) (source : Text) :
    (brings clause source).lead = "import ".toList ++ clause.mark ++ clause.text ++
      " from ".toList := rfl
theorem source_effects (source : Text) : (effects source).source = source := rfl
theorem source_brings (clause : Clause) (source : Text) :
    (brings clause source).source = source := rfl
theorem body_eq (s : Statement) : s.body = s.lead ++ '\'' :: (s.source ++ ['\'']) := rfl
theorem text_eq (s : Statement) : s.text = s.body ++ [';'] := rfl

end Statement

/-! ## Quotes -/

def isQuote (c : Char) : Bool := c = '\'' || c = '"'

/-- What can stand between the quotes of a specifier. -/
structure IsQuoted (t : Text) : Prop where
  ne_nil : t ≠ []
  clean : ∀ c ∈ t, isQuote c = false ∧ c ≠ '\n'

theorem IsSource.quoted {source : Text} (h : IsSource source) : IsQuoted source := by
  refine ⟨h.ne_nil, fun c hc => ?_⟩
  obtain ⟨hblank, hsingle, hdouble⟩ := h.clean c hc
  exact
    ⟨by simp [isQuote,
      hsingle, hdouble], fun hbreak => absurd hblank (by rw [hbreak]; decide)⟩

theorem isQuote_of_isClauseChar {c : Char} (h : isClauseChar c = true) :
    isQuote c = false := by
  refine Bool.eq_false_iff.2 fun hquote => ?_
  simp only [isQuote, Bool.or_eq_true, decide_eq_true_eq] at hquote
  rcases hquote with rfl | rfl <;> exact absurd h (by decide)

theorem isClauseChar_of_isBlank {c : Char} (h : isBlank c = true) :
    isClauseChar c = true := by
  simp [isClauseChar, h]

namespace Statement

theorem source_proper (s : Statement) (h : s.IsProper) : IsSource s.source := by
  cases s with
  | effects source => exact h
  | brings clause source => exact h.2

theorem lead_clean (s : Statement) (h : s.IsProper) :
    ∀ c ∈ s.lead, isQuote c = false := by
  cases s with
  | effects source =>
      show ∀ c ∈ "import ".toList, isQuote c = false
      decide
  | brings clause source =>
      have hmark : ∀ c ∈ clause.mark, isQuote c = false := by
        unfold Clause.mark
        split <;> decide
      have hclause := fun c hc => isQuote_of_isClauseChar (isClauseChar_text h.1 c hc)
      show ∀ c ∈ "import ".toList ++ clause.mark ++ clause.text ++ " from ".toList,
        isQuote c = false
      exact List.forall_mem_append.2 ⟨List.forall_mem_append.2
        ⟨List.forall_mem_append.2 ⟨by decide, hmark⟩, hclause⟩, by decide⟩

theorem semicolon_mem (s : Statement) {u v : Text} (h : s.text = u ++ v)
    (hv : v ≠ []) : ';' ∈ v := by
  obtain ⟨v, x, rfl⟩ := (List.eq_nil_or_concat v).resolve_left hv
  rw [text, List.concat_eq_append, ← List.append_assoc] at h
  have hx : [';'] = [x] := List.append_inj_right' h rfl
  rw [(List.cons.inj hx).1]
  simp

end Statement

section Matches

variable {β : Type} {next : Cursor → Option β} {c d : Cursor} {r : β} {source rest : Text}
  {clause : Clause} {s : Statement}

/-- The place behind a module specifier, which is kept. -/
def pastSpecifier (c : Cursor) (source rest : Text) : Cursor :=
  { c.past ('\'' :: (source ++ ['\''])) rest with
    kept := (.source, ⟨c.offset + 1, source ++ '\'' :: rest, source.length⟩) ::
      (.quote, ⟨c.offset, c.rest, 1⟩) :: c.kept }

theorem first_specifier (hsource : IsSource source)
    (hrest : c.rest = '\'' :: (source ++ '\'' :: rest))
    (h : next (pastSpecifier c source rest) = some r) :
    specifier.first next c = some r := by
  have hquoted := hsource.quoted
  cases source with
  | nil => exact absurd rfl hsource.ne_nil
  | cons x source =>
      have hchar : ∀ y ∈ x :: source, (!(y = '\'' || y = '"' || y = '\n')) = true := by
        intro y hy
        obtain ⟨hquote, hbreak⟩ := hquoted.clean y hy
        have hquote : (y = '\'' || y = '"') = false := hquote
        simp [hquote, hbreak]
      have hquote :
          (⟨c.offset, c.rest, c.offset + 1 - c.offset⟩ : Capture).text = ['\''] := by
        rw [Capture.text, hrest, Nat.add_sub_cancel_left]
        rfl
      have hlast : (x :: (source ++ ['\''])).getLast? = some '\'' := by
        rw [← List.cons_append, List.getLast?_concat]
      obtain ⟨hx, hmore⟩ := List.forall_mem_cons.1 hchar
      simp only [specifier, first_append, first_keep]
      refine first_one hrest (by decide) ?_
      refine first_many1 (Cursor.keeping_rest.trans Cursor.past_rest) hx
        hmore (by simp) ?_
      refine first_again (congrArg some hquote)
        (Cursor.keeping_rest.trans Cursor.past_rest) ?_
      refine Eq.trans (congrArg next ?_) h
      simp [pastSpecifier, Cursor.past, Cursor.keeping, Nat.add_assoc, hlast]
      omega

theorem spans_pastSpecifier (hrest : c.rest = '\'' :: (source ++ '\'' :: rest)) :
    c.Spans (pastSpecifier c source rest) ('\'' :: (source ++ ['\''])) :=
  Cursor.spans_past (by simpa using hrest)

theorem part_source :
    (c.matchTo (pastSpecifier d source rest)).part .source = source := by
  have hlookup : (c.matchTo (pastSpecifier d source rest)).part? .source =
      some (⟨d.offset + 1, source ++ '\'' :: rest, source.length⟩ : Capture).text := rfl
  rw [Match.part, hlookup, Option.getD_some, Capture.text, List.take_left]

/-- Whatever quote a specifier starts with, it ends with the same. -/
theorem quoted_of_mem_ends (h : d ∈ specifier.ends c) :
    ∃ q t, isQuote q = true ∧ IsQuoted t ∧ c.rest = q :: (t ++ q :: d.rest) := by
  obtain ⟨e, he, hd⟩ := mem_ends_append.1 h
  obtain ⟨e₁, he₁, he⟩ := mem_ends_append.1 he
  obtain ⟨e₀, he₀, rfl⟩ := List.mem_map.1 he₁
  obtain ⟨e₂, he₂, rfl⟩ := List.mem_map.1 he
  obtain ⟨_, hspan, q, rfl, hq⟩ := takes_of_mem_ends he₀
  obtain ⟨t, ⟨hrest, -⟩, ht⟩ := takes_of_mem_ends he₂
  obtain ⟨hne, hchars⟩ := takes_many1.1 ht
  have hquoted : IsQuoted t := by
    refine ⟨hne, fun x hx => ?_⟩
    have hx := hchars x hx
    simp only [Bool.not_eq_true', Bool.or_eq_false_iff, decide_eq_false_iff_not] at hx
    exact ⟨by simp [isQuote, hx.1], hx.2⟩
  -- The run between the quotes keeps no quote, so the one that comes again is the first.
  have hkept := kept?_of_mem_ends (@keeps_many1 .quote (fun _ => False) _) he₂
  have hagain := rest_of_mem_again hd hkept
  rw [text_capture hspan] at hagain
  refine ⟨q, t, hq, hquoted, ?_⟩
  rw [hspan.1]
  exact congrArg (q :: ·) (hrest.trans (congrArg (t ++ ·) hagain))

/-- In the line of a statement a specifier stands behind the lead and nowhere else. -/
theorem lead_of_specifier {u v tail x t last : Text} {q : Char} (h : s.IsProper)
    (hline : s.text = u ++ v) (hv : v ≠ []) (htail : EndsBlock tail) (hx : ';' ∉ x)
    (hq : isQuote q = true) (ht : IsQuoted t)
    (hrest : v ++ tail = x ++ q :: (t ++ q :: last)) : u ++ x = s.lead := by
  have hlead := s.lead_clean h
  have hsource := (s.source_proper h).quoted
  have heq : (u ++ x) ++ q :: (t ++ q :: last) =
      s.lead ++ '\'' :: (s.source ++ '\'' :: (';' :: tail)) := by
    rw [List.append_assoc, ← hrest, ← List.append_assoc, ← hline, Statement.text_eq,
      Statement.body_eq]
    simp
  rcases clean_or_first isQuote (u ++ x) with hclean | ⟨y, q₁, z, hsplit, hq₁, hy⟩
  · exact (eq_of_first hclean hlead hq (by decide) heq).1
  · exfalso
    rw [hsplit, List.append_assoc] at heq
    obtain ⟨hylead, hq₁', heq⟩ := eq_of_first hy hlead hq₁ (by decide) heq
    replace heq : z ++ q :: (t ++ q :: last) = s.source ++ '\'' :: (';' :: tail) := heq
    rcases clean_or_first isQuote z with hclean | ⟨y₂, q₂, z₂, hsplit₂, hq₂, hy₂⟩
    -- The quote behind the module is the last of its line, so no second follows.
    · obtain ⟨-, -, hsemi⟩ :=
        eq_of_first hclean (fun c hc => (hsource.clean c hc).1) hq (by decide) heq
      obtain ⟨hne, hchars⟩ := ht
      match t with
      | [] => exact hne rfl
      | [y] =>
          have hbreak := htail q (by rw [← (List.cons.inj hsemi).2]; rfl)
          exact absurd hq (by rw [hbreak]; decide)
      | y :: y' :: t =>
          have hbreak := htail y' (by rw [← (List.cons.inj hsemi).2]; rfl)
          exact (hchars y' (by simp)).2 hbreak
    -- A quote further on has the semicolon before it.
    · rw [hsplit₂, List.append_assoc] at heq
      obtain ⟨hysource, hq₂', heq⟩ :=
        eq_of_first hy₂ (fun c hc => (hsource.clean c hc).1) hq₂ (by decide) heq
      match z₂ with
      | [] => exact absurd hq (by rw [(List.cons.inj heq).1]; decide)
      | c :: z₃ =>
          have hc : c = ';' := (List.cons.inj heq).1
          have hpast : u ++ x = s.text ++ z₃ := by
            rw [hsplit, hylead, hq₁', hsplit₂, hysource, hq₂', hc, Statement.text_eq,
              Statement.body_eq]
            simp
          rw [hline, List.append_assoc] at hpast
          have hsemi := List.mem_append_left z₃ (s.semicolon_mem hline hv)
          exact hx (List.append_cancel_left hpast ▸ hsemi)

/-- A way through a pattern that ends in a specifier stops, in the line of a statement, at
its module. -/
theorem lead_of_mem_ends {A : Pattern} {u v tail : Text} (h : s.IsProper)
    (hA : ∀ x, A.Takes x → ';' ∉ x) (hline : s.text = u ++ v) (hv : v ≠ [])
    (htail : EndsBlock tail) (hrest : c.rest = v ++ tail)
    (hd : d ∈ (A ++ specifier).ends c) : ∃ x, A.Takes x ∧ u ++ x = s.lead := by
  obtain ⟨e, he, hd⟩ := mem_ends_append.1 hd
  obtain ⟨x, ⟨hspan, -⟩, hx⟩ := takes_of_mem_ends he
  obtain ⟨q, t, hq, ht, hquoted⟩ := quoted_of_mem_ends hd
  rw [hspan, hquoted] at hrest
  exact ⟨x, hx, lead_of_specifier h hline hv htail (hA x hx) hq ht hrest.symm⟩

theorem not_import_of_endsBlock {t : Text} (h : EndsBlock t) :
    ∀ w ∈ ["import".toList], ¬ w <+: t := by
  rintro _ (_ | ⟨_, _, ⟨⟩⟩) ⟨r, rfl⟩
  exact absurd (h 'i' rfl) (by decide)

/-! ## Statements for their effects -/

theorem takes_importBare {x : Text} (h : (boundary ++ word "import" ++ gap).Takes x) :
    ∃ g, x = "import".toList ++ g ∧ ∀ c ∈ g, isBlank c = true := by
  obtain ⟨_, g, rfl, ⟨_, _, rfl, rfl, rfl⟩, hg⟩ := h
  exact ⟨g, rfl, hg⟩

theorem atBoundary_import (hbefore : ∀ x ∈ c.before, x = '\n')
    (hrest : c.rest = "import".toList ++ rest) : c.atBoundary = true := by
  have hword : c.before.any isWord = false := by
    cases hb : c.before with
    | none => rfl
    | some x =>
        rw [hbefore x hb]
        decide
  have hhead : c.rest.head? = some 'i' := by rw [hrest]; rfl
  rw [Cursor.atBoundary, hword, hhead]
  decide

theorem first_importBare (h : IsSource source) (hbefore : ∀ x ∈ c.before, x = '\n')
    (hrest : c.rest = "import ".toList ++ '\'' :: (source ++ '\'' :: rest)) :
    importBare.first some c =
      some (pastSpecifier
        (c.past "import ".toList ('\'' :: (source ++ '\'' :: rest))) source rest) := by
  have hword : c.rest = "import".toList ++ (' ' :: '\'' :: (source ++ '\'' :: rest)) :=
    hrest
  have hquote : ∀ x ∈ ('\'' :: (source ++ '\'' :: rest)).head?, isBlank x = false := by
    rintro x ⟨⟩
    decide
  simp only [importBare, first_append]
  refine first_boundary (atBoundary_import hbefore hword) (first_word hword ?_)
  refine @first_many _ _ _ _ _ [' '] _ Cursor.past_rest (by decide) hquote ?_
  rw [Cursor.past_past]
  exact first_specifier h Cursor.past_rest rfl

/-! ## Statements with a clause -/

/-- What follows the clause. -/
def fromSource : Pattern := gap ++ (boundary ++ (word "from" ++ (gap ++ specifier)))

/-- Where `from` and a quote follow each other, what stands before them is known. -/
theorem eq_of_from {u v g g' z z' : Text} {q q' : Char} (hu : ∀ c ∈ u, isQuote c = false)
    (hv : ∀ c ∈ v, isQuote c = false) (hg : ∀ c ∈ g, isBlank c = true)
    (hg' : ∀ c ∈ g', isBlank c = true) (hq : isQuote q = true) (hq' : isQuote q' = true)
    (h : u ++ "from".toList ++ g ++ q :: z = v ++ "from".toList ++ g' ++ q' :: z') :
    u = v := by
  have hfrom : ∀ c ∈ "from".toList, isQuote c = false := by decide
  have hclean {u g : Text} (hu : ∀ c ∈ u, isQuote c = false) (hg : ∀ c ∈ g,
    isBlank c = true) : ∀ c ∈ u ++ "from".toList ++ g, isQuote c = false :=
    List.forall_mem_append.2 ⟨List.forall_mem_append.2 ⟨hu, hfrom⟩,
      fun c hc => isQuote_of_isClauseChar (isClauseChar_of_isBlank (hg c hc))⟩
  obtain ⟨hbefore, -, -⟩ := eq_of_first (hclean hu hg) (hclean hv hg') hq hq' h
  -- Behind the last letter of the word there are only blanks.
  have hlast : (u ++ "fro".toList) ++ 'm' :: g = (v ++ "fro".toList) ++ 'm' :: g' := by
    simpa using hbefore
  obtain ⟨hfro, -, -⟩ := eq_of_last_letter hg hg' (by decide) (by decide) hlast
  exact List.append_cancel_right hfro

theorem takes_fromSource {t : Text} (h : fromSource.Takes t) :
    ∃ g g' q z, t = g ++ "from".toList ++ g' ++ q :: z ∧ (∀ c ∈ g, isBlank c = true) ∧
      (∀ c ∈ g', isBlank c = true) ∧ isQuote q = true := by
  obtain ⟨g, _, rfl, hg, _, _, rfl, rfl, _, _, rfl, rfl, g', _, rfl, hg', z,
      w, rfl, hz, -⟩ := h
  obtain ⟨_, z, rfl, ⟨q, rfl, hq⟩, -⟩ := hz
  exact ⟨g, g', q, z ++ w, by simp, hg, hg', hq⟩

theorem first_fromSource (h : IsSource source)
    (hrest : c.rest = " from ".toList ++ '\'' :: (source ++ '\'' :: rest))
    (hnext :
      next (pastSpecifier
        (c.past " from ".toList ('\'' :: (source ++ '\'' :: rest))) source rest) =
      some r) : fromSource.first next c = some r := by
  have hquote : ∀ x ∈ ('\'' :: (source ++ '\'' :: rest)).head?, isBlank x = false := by
    rintro x ⟨⟩
    decide
  have hfrom : ∀ x ∈ ("from ".toList ++ '\'' :: (source ++ '\'' :: rest)).head?,
      isBlank x = false := by
    rintro x ⟨⟩
    decide
  simp only [fromSource, first_append]
  refine @first_many _ _ _ _ _ [' '] _ hrest (by decide) hfrom ?_
  refine first_boundary rfl (first_word Cursor.past_rest ?_)
  refine @first_many _ _ _ _ _ [' '] _ Cursor.past_rest (by decide) hquote ?_
  rw [Cursor.past_past, Cursor.past_past]
  exact first_specifier h Cursor.past_rest hnext

/-- From the middle of a clause only blanks could lead to `from`. -/
theorem notMem_ends_fromSource {b more : Text} {y : Char}
    (hclean : ∀ c ∈ b ++ [y], isQuote c = false) (hy : isBlank y = false)
    (hrest : c.rest = b ++ [y] ++ (" from ".toList ++ '\'' :: more)) :
    d ∉ fromSource.ends c := by
  intro hd
  obtain ⟨t, ⟨hspan, -⟩, ht⟩ := takes_of_mem_ends hd
  obtain ⟨g, g', q, z, rfl, hg, hg', hq⟩ := takes_fromSource ht
  have hfrom : b ++ [y] ++ [' '] ++ "from".toList ++ [' '] ++ '\'' :: more =
      g ++ "from".toList ++ g' ++ q :: (z ++ d.rest) := by
    rw [hrest, List.append_assoc _ (q :: z)] at hspan
    rw [← List.cons_append, ← hspan]
    simp
  have hquoteless : ∀ c ∈ b ++ [y] ++ [' '], isQuote c = false :=
    List.forall_mem_append.2 ⟨hclean, by decide⟩
  have hblanks := eq_of_from hquoteless
    (fun c hc => isQuote_of_isClauseChar (isClauseChar_of_isBlank (hg c hc)))
    (by decide) hg' (by decide) hq hfrom
  exact absurd (hg y (hblanks ▸ by simp)) (by simp [hy])

theorem first_clause (hclause : clause.IsProper) (h : IsSource source)
    (hrest : c.rest = clause.text ++
      (" from ".toList ++ '\'' :: (source ++ '\'' :: rest)))
    (hnext : next (pastSpecifier
      (((c.past clause.text (" from ".toList ++ '\'' :: (source ++ '\'' :: rest))).keeping
        .clause c).past
        " from ".toList ('\'' :: (source ++ '\'' :: rest))) source rest) = some r) :
    (keep .clause (one isClauseChar ++ few isClauseChar)).first (fromSource.first next)
      c = some r := by
  obtain ⟨htrim, hne⟩ := trim_text hclause
  obtain ⟨x, more, htext⟩ := List.exists_cons_of_ne_nil hne
  obtain ⟨hx, hmore⟩ := List.forall_mem_cons.1 (htext ▸ isClauseChar_text hclause)
  rw [htext] at hrest hnext
  rw [first_keep, first_append]
  refine first_one hrest hx (first_few Cursor.past_rest hmore (fun a b hab hb => ?_) ?_)
  · obtain ⟨b, y, rfl⟩ := (List.eq_nil_or_concat b).resolve_left hb
    rw [List.concat_eq_append] at hab ⊢
    have hclean : ∀ c ∈ b ++ [y], isQuote c = false := fun c hc =>
      isQuote_of_isClauseChar (hmore c (hab ▸ List.mem_append_right a hc))
    have hlast : clause.text.getLast? = some y := by
      rw [htext, hab, ← List.cons_append, ← List.append_assoc, List.getLast?_concat]
    exact first_eq_none fun d hd =>
      absurd hd (notMem_ends_fromSource hclean (htrim.last y hlast) rfl)
  · rw [Cursor.past_past]
    exact first_fromSource h rfl hnext

/-- A clause that is not marked does not begin like one that is. -/
theorem clause_ne_type (hclause : clause.IsProper)
    (hplain : clause.typeOnly = false) {b : Char} {t : Text} (hb : isBlank b = true)
    (ht : t ≠ []) : "type".toList ++ b :: t ≠ clause.text ++ [' '] := by
  intro h
  have hpart {bound tail : Text} {x : Char} (hbound : IsLocal bound) (hx :
      isIdentifierPart x = false)
        (h : "type".toList ++ b :: t = bound ++ x :: tail) : b = x ∧ t = tail := by
    have hword : ∀ c ∈ "type".toList, (!isIdentifierPart c) = false := by decide
    have hbpart : (!isIdentifierPart b) = true := by
      rw [Bool.not_eq_true', Bool.eq_false_iff]
      exact fun hpart => absurd hb (by simp [isBlank_of_isIdentifierPart hpart])
    exact (eq_of_first hword (fun c hc => by
      simp [hbound.part c hc]) hbpart (by simp [hx]) h).2
  cases clause with
  | name typeOnly bound => exact ht (hpart hclause (by decide) h).2
  | whole bound => exact absurd (List.cons.inj h).1 (by decide)
  | list typeOnly entries => exact absurd (List.cons.inj h).1 (by decide)
  | nameAndList bound entries =>
      have hcomma :=
        (@hpart _ (' ' :: Clause.block entries ++ [' ']) ',' hclause.1 (by decide)
        (h.trans (by simp))).1
      exact absurd hb (by rw [hcomma]; decide)
  | nameAndWhole bound star =>
      have hcomma :=
        (@hpart _ (" * as ".toList ++ star ++ [' ']) ',' hclause.1 (by decide)
        (h.trans (by simp))).1
      exact absurd hb (by rw [hcomma]; decide)

/-- The rest of a statement behind its clause. -/
def behind (source rest : Text) : Text :=
  " from ".toList ++ '\'' :: (source ++ '\'' :: rest)

theorem behind_eq (source rest : Text) :
    behind source rest = " from ".toList ++ '\'' :: (source ++ '\'' :: rest) := rfl

theorem notMem_ends_marked (hclause : clause.IsProper) (hplain : clause.typeOnly = false)
    (hrest : c.rest = clause.text ++ behind source rest) :
    d ∉ (keep .typeOnly (word "type" ++ space) ++
      keep .clause (one isClauseChar ++ few isClauseChar) ++ fromSource).ends c := by
  intro hd
  obtain ⟨t, ⟨hspan, -⟩, _, u, rfl, ⟨_, _, rfl, hmark, hchars⟩, hu⟩ :=
    takes_of_mem_ends hd
  obtain ⟨_, _, rfl, rfl, _, g, rfl, ⟨b, rfl, hb⟩, hg⟩ := hmark
  obtain ⟨_, x, rfl, ⟨y, rfl, hy⟩, hx⟩ := hchars
  obtain ⟨g₁, g₂, q, z, rfl, hg₁, hg₂, hq⟩ := takes_fromSource hu
  have hfrom : clause.text ++ [' '] ++ "from".toList ++ [' '] ++ '\'' ::
    (source ++ '\'' :: rest) =
      "type".toList ++ b :: (g ++ y :: (x ++ g₁)) ++ "from".toList ++ g₂ ++ q ::
        (z ++ d.rest) := by
    have hword : behind source rest =
        [' '] ++ ("from".toList ++ ([' '] ++ '\'' :: (source ++ '\'' :: rest))) := rfl
    have hsame := hrest.symm.trans hspan
    simpa only [hword, List.append_assoc, List.cons_append, List.nil_append] using hsame
  have hblank {c : Char} (hc : isBlank c = true) : isQuote c = false :=
    isQuote_of_isClauseChar (isClauseChar_of_isBlank hc)
  have hclause' : ∀ c ∈ clause.text ++ [' '], isQuote c = false :=
    List.forall_mem_append.2
      ⟨fun c hc => isQuote_of_isClauseChar (isClauseChar_text hclause c hc), by decide⟩
  have hmarked : ∀ c ∈ "type".toList ++ b :: (g ++ y :: (x ++ g₁)),
      isQuote c = false := by
    refine List.forall_mem_append.2 ⟨by decide, List.forall_mem_cons.2 ⟨hblank hb, ?_⟩⟩
    refine List.forall_mem_append.2 ⟨fun c hc => hblank (hg c hc),
      List.forall_mem_cons.2 ?_⟩
    refine ⟨isQuote_of_isClauseChar hy, List.forall_mem_append.2 ?_⟩
    exact ⟨fun c hc => isQuote_of_isClauseChar (hx c hc), fun c hc => hblank (hg₁ c hc)⟩
  have hsame := eq_of_from hclause' hmarked (by decide) hg₂ (by decide) hq hfrom
  exact clause_ne_type hclause hplain hb (by simp) hsame.symm

/-- The place before a clause, with its mark kept when there is one. -/
def pastMark (c : Cursor) (clause : Clause) (rest : Text) : Cursor :=
  if clause.typeOnly then (c.past "type ".toList rest).keeping .typeOnly c else c

theorem spans_pastMark (hrest : c.rest = clause.mark ++ rest) :
    c.Spans (pastMark c clause rest) (clause.mark) := by
  unfold pastMark Clause.mark
  unfold Clause.mark at hrest
  split
  · next htype =>
      rw [if_pos htype] at hrest
      exact Cursor.spans_past hrest
  · exact .refl c

theorem pastMark_rest (hrest : c.rest = clause.mark ++ rest) :
    (pastMark c clause rest).rest = rest :=
  List.append_cancel_left ((spans_pastMark hrest).1.symm.trans hrest)

theorem first_typeMark (hclause : clause.IsProper)
    (hrest : c.rest = clause.mark ++ (clause.text ++ behind source rest))
    (h : (keep .clause (one isClauseChar ++ few isClauseChar)).first
      (fromSource.first next) (pastMark c clause (clause.text ++ behind source rest)) =
        some r) :
    typeMark.first ((keep .clause (one isClauseChar ++ few isClauseChar)).first
      (fromSource.first next)) c = some r := by
  obtain ⟨htrim, hne⟩ := trim_text hclause
  obtain ⟨x, more, htext⟩ := List.exists_cons_of_ne_nil hne
  unfold pastMark at h
  unfold Clause.mark at hrest
  cases htype : clause.typeOnly with
  | true =>
      rw [htype, if_pos rfl] at h hrest
      have hstop : ∀ y ∈ (clause.text ++ behind source rest).head?,
          isBlank y = false := by
        rw [htext]
        exact fun y hy => htrim.head y (htext ▸ hy)
      refine first_optional ?_
      rw [first_keep, first_append]
      refine first_word hrest ?_
      refine @first_many1 _ _ _ _ _ [] _ ' ' Cursor.past_rest (by decide)
        (List.forall_mem_nil _) hstop ?_
      rw [Cursor.past_past]
      exact h
  | false =>
      rw [htype] at h hrest
      refine first_optional_right ?_ h
      rw [← first_append, ← first_append]
      exact first_eq_none fun d hd => absurd hd (notMem_ends_marked hclause htype hrest)

/-- The place where the match of a statement with a clause ends. -/
def pastStatement (c : Cursor) (clause : Clause) (source rest : Text) : Cursor :=
  let start :=
    pastMark (c.past "import ".toList (clause.mark ++ (clause.text ++ behind source rest)))
      clause (clause.text ++ behind source rest)
  pastSpecifier
    (((start.past clause.text (behind source rest)).keeping .clause start).past
      " from ".toList ('\'' :: (source ++ '\'' :: rest)))
    source rest

theorem first_importFrom (hclause : clause.IsProper) (hsource : IsSource source)
    (hbefore : ∀ x ∈ c.before, x = '\n')
    (hrest : c.rest = "import ".toList ++
      (clause.mark ++ (clause.text ++ behind source rest))) :
    importFrom.first some c = some (pastStatement c clause source rest) := by
  obtain ⟨htrim, hne⟩ := trim_text hclause
  obtain ⟨x, more, htext⟩ := List.exists_cons_of_ne_nil hne
  have hstop : ∀ y ∈ (clause.mark ++ (clause.text ++ behind source rest)).head?,
      isBlank y = false := by
    unfold Clause.mark
    split
    · rintro y ⟨⟩
      decide
    · rw [htext]
      exact fun y hy => htrim.head y (htext ▸ hy)
  have hsplit : importFrom.first some = boundary.first ((word "import").first (space.first
      (typeMark.first ((keep .clause (one isClauseChar ++ few isClauseChar)).first
        (fromSource.first some))))) := by
    simp only [importFrom, fromSource, first_append]
  rw [hsplit]
  refine first_boundary (atBoundary_import hbefore hrest) (first_word hrest ?_)
  refine @first_many1 _ _ _ _ _ [] _ ' ' Cursor.past_rest (by decide)
    (List.forall_mem_nil _) hstop ?_
  rw [Cursor.past_past]
  exact first_typeMark hclause Cursor.past_rest
    (first_clause hclause hsource (pastMark_rest Cursor.past_rest) rfl)

theorem spans_pastStatement
    (hrest : c.rest = "import ".toList ++
      (clause.mark ++ (clause.text ++ behind source rest))) :
    c.Spans (pastStatement c clause source rest)
      (Statement.brings clause source).body := by
  have hmark :=
    @spans_pastMark
      (c.past "import ".toList (clause.mark ++ (clause.text ++ behind source rest)))
      (clause.text ++ behind source rest) clause Cursor.past_rest
  have hstart :=
    @pastMark_rest
      (c.past "import ".toList (clause.mark ++ (clause.text ++ behind source rest)))
      (clause.text ++ behind source rest) clause Cursor.past_rest
  have hbody : (Statement.brings clause source).body = "import ".toList ++ clause.mark ++
      (clause.text ++ (" from ".toList ++ '\'' :: (source ++ ['\'']))) := by
    rw [Statement.body_eq, Statement.lead_brings, Statement.source_brings]
    simp only [List.append_assoc]
  unfold pastStatement
  generalize pastMark _ clause _ = start at hmark hstart
  have hclause := Cursor.spans_past hstart
  have hfrom :=
    @Cursor.spans_past
      ((start.past clause.text (behind source rest)).keeping .clause start)
      " from ".toList ('\'' :: (source ++ '\'' :: rest)) rfl
  rw [hbody]
  exact ((Cursor.spans_past hrest).trans hmark).trans
    (hclause.trans (hfrom.trans (spans_pastSpecifier Cursor.past_rest)))

theorem part_clause (c : Cursor) (clause : Clause) (source rest : Text) :
    (c.matchTo (pastStatement c clause source rest)).part .clause = clause.text := by
  have hstart :=
    @pastMark_rest
      (c.past "import ".toList (clause.mark ++ (clause.text ++ behind source rest)))
      (clause.text ++ behind source rest) clause Cursor.past_rest
  unfold pastStatement
  generalize pastMark _ clause _ = start at hstart
  have htext := text_capture (Cursor.spans_past hstart)
  have hpart :
      (c.matchTo
        (pastSpecifier
          (((start.past clause.text (behind source rest)).keeping .clause start).past
            " from ".toList ('\'' :: (source ++ '\'' :: rest)))
          source rest)).part? .clause =
        some (⟨start.offset, start.rest,
          (start.past clause.text (behind source rest)).offset - start.offset⟩ :
          Capture).text := rfl
  rw [Match.part]
  simp only []
  rw [hpart, htext, Option.getD_some]

theorem part_typeOnly (hkept : c.kept = []) :
    ((c.matchTo (pastStatement c clause source rest)).part? .typeOnly).isSome =
      clause.typeOnly := by
  have hstart (start : Cursor) :
      (c.matchTo
        (pastSpecifier
          (((start.past clause.text (behind source rest)).keeping .clause start).past
            " from ".toList ('\'' :: (source ++ '\'' :: rest)))
          source rest)).part? .typeOnly =
        (start.kept.lookup .typeOnly).map (·.text) := rfl
  unfold pastStatement
  simp only [hstart, pastMark]
  cases clause.typeOnly with
  | true => rfl
  | false =>
      simp only [Bool.false_eq_true, if_false, Cursor.past_kept, hkept]
      rfl

/-! ## Lines -/

theorem opens_importBare : importBare.Opens ["import".toList] := opens_of_openings rfl

theorem opens_importFrom : importFrom.Opens ["import".toList] := opens_of_openings rfl

/-- A match that ends at the quotes of a line is the only one in it. -/
theorem foundFrom_of_body {p : Pattern} {tail : Text} (hp : p.Opens ["import".toList])
    (hrest : c.rest = s.text ++ tail)
    (hfirst : p.first some { c with kept := [] } = some d) (hspan : c.Spans d s.body) :
    p.foundFrom c = c.matchTo d :: p.foundFrom (c.past s.text tail) := by
  have hbody : c.rest = s.body ++ (';' :: tail) := by simp [hrest, Statement.text_eq]
  have hne : s.body ≠ [] := by simp [Statement.body_eq]
  have hsemi : p.foundFrom (c.past s.body (';' :: tail)) =
      p.foundFrom (c.past s.text tail) := by
    rw [Statement.text_eq, ← Cursor.past_past]
    refine foundFrom_past rfl fun u v huv hv => matchAt_of_opens hp ?_
    obtain ⟨rfl, rfl⟩ | ⟨-, rfl⟩ := List.append_eq_singleton_iff.1 huv.symm
    · rintro _ (_ | ⟨_, _, ⟨⟩⟩) ⟨r, hr⟩
      exact absurd (List.cons.inj hr).1 (by decide)
    · exact absurd rfl hv
  rw [foundFrom_of_first hbody hne hfirst hspan, hsemi]

/-- A pattern that reads another lead finds nothing in a line. -/
theorem foundFrom_of_lead {A : Pattern} {tail : Text} (h : s.IsProper)
    (hA : ∀ x, A.Takes x → ';' ∉ x ∧ ∀ u, u ++ x ≠ s.lead)
    (hrest : c.rest = s.text ++ tail) (htail : EndsBlock tail) :
    (A ++ specifier).foundFrom c = (A ++ specifier).foundFrom (c.past s.text tail) := by
  refine foundFrom_past hrest fun u v huv hv => matchAt_eq_none fun d hd => ?_
  obtain ⟨x, hx, hlead⟩ :=
    lead_of_mem_ends h (fun x hx => (hA x hx).1) huv hv htail rfl hd
  exact (hA x hx).2 u hlead

theorem notMem_of_isBlank {g : Text} {x : Char} (h : ∀ c ∈ g, isBlank c = true)
    (hx : isBlank x = false) : x ∉ g := fun hmem => Bool.eq_false_iff.1 hx (h x hmem)

/-- What an import with names takes before the module. -/
theorem takes_beforeSource {x : Text}
    (h : (boundary ++ word "import" ++ space ++ typeMark ++
      keep .clause (one isClauseChar ++ few isClauseChar) ++ gap ++ boundary ++
        word "from" ++ gap).Takes x) :
    ';' ∉ x ∧ ∃ a g, x = a ++ "from".toList ++ g ∧ ∀ c ∈ g, isBlank c = true := by
  obtain ⟨_, g, rfl, ⟨_, _, rfl, ⟨a, _, rfl, ha, rfl⟩, rfl⟩, hg⟩ := h
  rw [List.append_nil]
  refine ⟨?_, a, g, rfl, hg⟩
  have hsemi : ';' ∉ a := by
    obtain ⟨_, g₂, rfl,
        ⟨_, y, rfl, ⟨_, t, rfl, ⟨_, g₁, rfl, ⟨_, _, rfl, rfl, rfl⟩, hg₁⟩, ht⟩, hy⟩,
        hg₂⟩ := ha
    have hspace {g : Text} (hg : space.Takes g) : ';' ∉ g :=
      notMem_of_isBlank (takes_many1.1 hg).2 (by decide)
    have htype : ';' ∉ t := by
      rcases ht with ⟨_, g₃, rfl, rfl, hg₃⟩ | rfl
      · rw [List.mem_append, not_or]
        exact ⟨by decide, hspace hg₃⟩
      · exact List.not_mem_nil
    have hclause : ';' ∉ y := by
      obtain ⟨_, y, rfl, ⟨x, rfl, hx⟩, hy⟩ := hy
      have hchars : ∀ c ∈ x :: y, isClauseChar c = true := List.forall_mem_cons.2 ⟨hx, hy⟩
      exact fun hmem => absurd (hchars ';' hmem) (by decide)
    simp only [List.mem_append, not_or]
    exact ⟨⟨⟨⟨by decide, hspace hg₁⟩, htype⟩, hclause⟩, notMem_of_isBlank hg₂ (by decide)⟩
  simp only [List.mem_append, not_or]
  exact ⟨⟨hsemi, by decide⟩, notMem_of_isBlank hg (by decide)⟩

/-- The pattern for effects finds the statements for their effects. -/
theorem foundFrom_importBare {tail : Text} (h : s.IsProper)
    (hrest : c.rest = s.text ++ tail) (hbefore : ∀ x ∈ c.before, x = '\n')
    (htail : EndsBlock tail) :
    ∃ ms, importBare.foundFrom c = ms ++ importBare.foundFrom (c.past s.text tail) ∧
      match s with
      | .effects source => ∃ m, ms = [m] ∧ m.start = c.offset ∧ m.part .source = source
      | .brings _ _ => ms = [] := by
  cases s with
  | effects source =>
      have hline : c.rest = "import ".toList ++ '\'' ::
          (source ++ '\'' :: (';' :: tail)) := by
        simp only [hrest, Statement.text_eq, Statement.body_eq, Statement.lead_effects,
          Statement.source_effects, List.append_assoc, List.cons_append, List.nil_append]
      have hfirst :=
        @first_importBare { c with kept := [] } source (';' :: tail) h hbefore hline
      have hspan := (Cursor.spans_past hline).trans (@spans_pastSpecifier
        (c.past "import ".toList ('\'' :: (source ++ '\'' :: (';' :: tail)))) source
          (';' :: tail) rfl)
      exact ⟨_, foundFrom_of_body opens_importBare hrest hfirst hspan, _, rfl,
        rfl, part_source⟩
  | brings clause source =>
      refine ⟨[], foundFrom_of_lead h (fun x hx => ?_) hrest htail, rfl⟩
      obtain ⟨g, rfl, hg⟩ := takes_importBare hx
      refine ⟨?_, fun u hlead => ?_⟩
      · simp only [List.mem_append, not_or]
        exact ⟨by decide, notMem_of_isBlank hg (by decide)⟩
      · have hends : (u ++ "impor".toList) ++ 't' :: g =
            ("import ".toList ++ clause.mark ++ clause.text ++ " fro".toList) ++
              'm' :: [' '] := by
          rw [Statement.lead_brings] at hlead
          simpa using hlead
        obtain ⟨-, hletter, -⟩ :=
          eq_of_last_letter hg (by decide) (by decide) (by decide) hends
        exact absurd hletter (by decide)

/-- The pattern for names finds the statements with a clause. -/
theorem foundFrom_importFrom {tail : Text} (h : s.IsProper)
    (hrest : c.rest = s.text ++ tail) (hbefore : ∀ x ∈ c.before, x = '\n')
    (htail : EndsBlock tail) :
    ∃ ms, importFrom.foundFrom c = ms ++ importFrom.foundFrom (c.past s.text tail) ∧
      match s with
      | .effects _ => ms = []
      | .brings clause source =>
          ∃ m, ms = [m] ∧ m.start = c.offset ∧ m.part .source = source ∧
          m.part .clause = clause.text ∧ (m.part? .typeOnly).isSome =
            clause.typeOnly := by
  cases s with
  | effects source =>
      refine ⟨[], foundFrom_of_lead h (fun x hx => ?_) hrest htail, rfl⟩
      obtain ⟨hsemi, a, g, rfl, hg⟩ := takes_beforeSource hx
      refine ⟨hsemi, fun u hlead => ?_⟩
      have hends : (u ++ a ++ "fro".toList) ++ 'm' :: g = "impor".toList ++
          't' :: [' '] := by
        rw [Statement.lead_effects] at hlead
        simpa using hlead
      obtain ⟨-, hletter, -⟩ :=
        eq_of_last_letter hg (by decide) (by decide) (by decide) hends
      exact absurd hletter (by decide)
  | brings clause source =>
      obtain ⟨hclause, hsource⟩ := h
      have hline : c.rest = "import ".toList ++
          (clause.mark ++ (clause.text ++ behind source (';' :: tail))) := by
        simp only [hrest, behind_eq, Statement.text_eq, Statement.body_eq,
          Statement.lead_brings, Statement.source_brings, List.append_assoc,
          List.cons_append, List.nil_append]
      have hfirst :=
        @first_importFrom { c with kept := [] } source (';' :: tail) clause
          hclause hsource
        hbefore hline
      have hspan :=
        @spans_pastStatement { c with kept := [] } source (';' :: tail) clause hline
      exact ⟨_, foundFrom_of_body opens_importFrom hrest hfirst hspan, _, rfl,
        rfl, part_source, part_clause { c with kept := [] } clause source _,
          @part_typeOnly { c with kept := [] } _ _ _ rfl⟩

end Matches

end ImpactGraph.Rules.JavaScript
