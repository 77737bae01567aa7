import ImpactGraph.Facts.Basic
import ImpactGraph.Proofs.CanonicalPath

/-!
# Texts put together and taken apart

What is written with separators and blanks can be read back. A separator is
found at its first character, so a cut is known as soon as that character does
not occur before it; trimming gives back what stands between blanks; and a list
of entries separated by commas gives the entries, whatever blanks surround
them. All conditions are on characters, because the entries of a declaration
are known by the characters they may hold: `isBlank_of_isWord` and its kin say
that a word holds none of those that separate words.
-/

namespace ImpactGraph

/-! ## Characters of words -/

namespace Text

-- A condition on the characters of a text is decided by going through the
-- text. The priority puts these before an instance that goes through every
-- character there is.

instance (priority := 2000) decidableForallMem {P : Char → Prop}
    [DecidablePred P] (t : Text) : Decidable (∀ c ∈ t, P c) :=
  List.decidableBAll P t

instance (priority := 2000) decidableForallMemEnd {P : Char → Prop} [DecidablePred P]
    (c? : Option Char) : Decidable (∀ c ∈ c?, P c) :=
  Option.decidableForallMem c?

/-- The code points of the blanks. -/
def blankCodes : List Nat :=
  [0x20, 0x09, 0x0A, 0x0B, 0x0C, 0x0D, 0x1C, 0x1D, 0x1E, 0x1F, 0x85, 0xA0, 0x1680,
    0x2028, 0x2029, 0x202F, 0x205F, 0x3000, 0x2000, 0x2001, 0x2002, 0x2003, 0x2004,
    0x2005, 0x2006, 0x2007, 0x2008, 0x2009, 0x200A]

theorem toNat_mem_blankCodes {c : Char} (h : isBlank c = true) :
    c.toNat ∈ blankCodes := by
  have hspace : c = ' ' → c.toNat = 0x20 := fun hc => hc ▸ rfl
  simp only [isBlank, Bool.or_eq_true, Bool.and_eq_true, decide_eq_true_eq, List.mem_cons,
    List.not_mem_nil, or_false] at h
  replace h := h.imp_left (Or.imp_left (Or.imp_left (Or.imp_left hspace)))
  simp only [blankCodes, List.mem_cons, List.not_mem_nil, or_false]
  omega

theorem isWord_blank : ∀ n ∈ blankCodes, isWord (Char.ofNat n) = false := by
  decide +kernel

theorem isBlank_of_isWord {c : Char} (h : isWord c = true) : isBlank c = false := by
  refine Bool.eq_false_iff.2 fun hblank => ?_
  have hno := isWord_blank _ (toNat_mem_blankCodes hblank)
  rw [Char.ofNat_toNat, h] at hno
  exact absurd hno (by simp)

section Inline

variable {c : Char}

theorem isBlank_of_isInlineBlank (h : isInlineBlank c = true) : isBlank c = true := by
  simp only [isInlineBlank, Bool.or_eq_true, decide_eq_true_eq] at h
  rcases h with rfl | rfl <;> decide

theorem isInlineBlank_of_isWord (h : isWord c = true) : isInlineBlank c = false :=
  Bool.eq_false_iff.2 fun hblank =>
    Bool.eq_false_iff.1 (isBlank_of_isWord h) (isBlank_of_isInlineBlank hblank)

theorem isWord_of_isInlineBlank (h : isInlineBlank c = true) : isWord c = false :=
  Bool.eq_false_iff.2 fun hword => Bool.eq_false_iff.1 (isInlineBlank_of_isWord hword) h

theorem notMem_of_inline {t : Text} (h : ∀ c ∈ t, isInlineBlank c = true) : '\n' ∉ t :=
  fun hmem => absurd (h _ hmem) (by decide)

end Inline

end Text

open Text

theorem isBlank_of_isIdentifierPart {c : Char} (h : isIdentifierPart c = true) :
    isBlank c = false := by
  rcases Bool.or_eq_true_iff.1 h with h | h
  · exact isBlank_of_isWord h
  · rw [of_decide_eq_true h]
    decide

theorem isIdentifierPart_of_isIdentifierStart {c : Char}
    (h : isIdentifierStart c = true) : isIdentifierPart c = true := by
  simp only [isIdentifierStart, Bool.or_eq_true] at h
  simp only [isIdentifierPart, isWord, isAsciiAlphanumeric, Bool.or_eq_true]
  rcases h with ((h | h) | h) | h <;> simp [h]

/-- An identifier that does not end its line: a first character and further ones. -/
theorem exists_of_isIdentifier_of_last {t : Text} (h : isIdentifier t = true)
    (hlast : t.getLast? ≠ some '\n') :
    ∃ c rest, t = c :: rest ∧ isIdentifierStart c = true ∧
      ∀ x ∈ c :: rest, isIdentifierPart x = true := by
  rw [isIdentifier, if_neg hlast] at h
  cases t with
  | nil => exact absurd h (by simp)
  | cons c rest =>
      obtain ⟨hc, hrest⟩ := Bool.and_eq_true_iff.1 h
      refine ⟨c, rest, rfl, hc, List.forall_mem_cons.2 ⟨?_, List.all_eq_true.1 hrest⟩⟩
      exact isIdentifierPart_of_isIdentifierStart hc

theorem exists_of_isIdentifier {t : Text} (h : isIdentifier t = true)
    (hbreak : '\n' ∉ t) :
    ∃ c rest, t = c :: rest ∧ isIdentifierStart c = true ∧
      ∀ x ∈ c :: rest, isIdentifierPart x = true :=
  exists_of_isIdentifier_of_last h fun hlast => hbreak (List.mem_of_getLast? hlast)

namespace Text

/-! ## The first and the last character of a kind -/

section Ends

variable {p : Char → Bool} {a b s t : Text} {x y : Char}

theorem clean_or_first (p : Char → Bool) (t : Text) :
    (∀ c ∈ t, p c = false) ∨ ∃ a x b, t = a ++ x :: b ∧ p x = true ∧ ∀ c ∈ a,
      p c = false := by
  cases hfind : t.find? p with
  | none => exact .inl fun c hc => Bool.eq_false_iff.2 (List.find?_eq_none.1 hfind c hc)
  | some x =>
      obtain ⟨hx, a, b, hsplit, ha⟩ := List.find?_eq_some_iff_append.1 hfind
      exact .inr ⟨a, x, b, hsplit, hx, fun c hc => Bool.not_eq_true' _ ▸ ha c hc⟩

/-- Two ways to put a text around its first character of a kind are one. -/
theorem eq_of_first (ha : ∀ c ∈ a, p c = false) (hb : ∀ c ∈ b, p c = false)
    (hx : p x = true) (hy : p y = true) (h : a ++ x :: s = b ++ y :: t) :
    a = b ∧ x = y ∧ s = t := by
  induction a generalizing b with
  | nil =>
      cases b with
      | nil => exact ⟨rfl, List.cons.inj h⟩
      | cons d b =>
          exact absurd (hb d List.mem_cons_self) (by simp [← (List.cons.inj h).1, hx])
  | cons c a ih =>
      obtain ⟨hc, ha⟩ := List.forall_mem_cons.1 ha
      cases b with
      | nil => exact absurd hc (by simp [(List.cons.inj h).1, hy])
      | cons d b =>
          obtain ⟨hcd, hrest⟩ := List.cons.inj h
          obtain ⟨hab, hst⟩ := ih ha (List.forall_mem_cons.1 hb).2 hrest
          exact ⟨by rw [hcd, hab], hst⟩

/-- The same for the last character of a kind. -/
theorem eq_of_last (hs : ∀ c ∈ s, p c = false) (ht : ∀ c ∈ t, p c = false)
    (hx : p x = true) (hy : p y = true) (h : a ++ x :: s = b ++ y :: t) :
    a = b ∧ x = y ∧ s = t := by
  have hreverse : s.reverse ++ x :: a.reverse = t.reverse ++ y :: b.reverse := by
    have := congrArg List.reverse h
    simpa using this
  obtain ⟨hst, hxy, hab⟩ :=
    eq_of_first (by simpa using hs) (by simpa using ht) hx hy hreverse
  exact ⟨List.reverse_inj.1 hab, hxy, List.reverse_inj.1 hst⟩

theorem eq_of_last_letter (hs : ∀ c ∈ s, isBlank c = true)
    (ht : ∀ c ∈ t, isBlank c = true) (hx : isBlank x = false) (hy : isBlank y = false)
    (h : a ++ x :: s = b ++ y :: t) : a = b ∧ x = y ∧ s = t := by
  have hno {s : Text} (hs : ∀ c ∈ s, isBlank c = true) : ∀ c ∈ s, (!isBlank c) = false :=
    fun c hc => by rw [hs c hc]; rfl
  exact eq_of_last (hno hs) (hno ht) (by rw [hx]; rfl) (by rw [hy]; rfl) h

end Ends

/-! ## Trimming -/

section Trim

variable {p : Char → Bool} {t left right : Text}

theorem ne_of_notMem {x : Char} (h : x ∉ t) : ∀ c ∈ t, decide (c ≠ x) = true :=
  fun _ hc => decide_eq_true fun he => h (he ▸ hc)

theorem trimWhile_pad (hleft : ∀ c ∈ left, p c = true) (hright : ∀ c ∈ right, p c = true)
    (hhead : ∀ c ∈ t.head?, p c = false) (hlast : ∀ c ∈ t.getLast?, p c = false) :
    trimWhile p (left ++ t ++ right) = t := by
  rw [trimWhile, List.append_assoc]
  cases t with
  | nil =>
      have hall : ∀ c ∈ left ++ right, p c = true :=
        List.forall_mem_append.2 ⟨hleft, hright⟩
      have hnil := dropWhile_pad hall hhead
      rw [List.append_nil] at hnil
      rw [List.nil_append, hnil]
      rfl
  | cons c t =>
      rw [dropWhile_pad hleft (by rwa [List.cons_append]), dropWhileEnd_pad hright hlast]

/-- A text without blanks at its ends. -/
structure IsTrim (t : Text) : Prop where
  head : ∀ c ∈ t.head?, isBlank c = false
  last : ∀ c ∈ t.getLast?, isBlank c = false

theorem IsTrim.of_forall (h : ∀ c ∈ t, isBlank c = false) : t.IsTrim :=
  ⟨fun c hc => h c (List.mem_of_head? hc), fun c hc => h c (List.mem_of_getLast? hc)⟩

theorem last_append {P : Char → Prop} (hne : t ≠ [])
    (h : ∀ c ∈ t.getLast?, P c) (s : Text) : ∀ c ∈ (s ++ t).getLast?, P c := by
  rwa [List.getLast?_append, List.getLast?_eq_some_getLast hne, Option.some_or,
    ← List.getLast?_eq_some_getLast hne]

theorem IsTrim.between {s : Text} (hs : s.IsTrim) (mid : Text) (ht : t.IsTrim)
    (hsne : s ≠ []) (htne : t ≠ []) : (s ++ mid ++ t).IsTrim := by
  cases s with
  | nil => exact absurd rfl hsne
  | cons x s => exact ⟨hs.head, last_append htne ht.last (x :: s ++ mid)⟩

theorem strip_pad (ht : t.IsTrim) (hleft : ∀ c ∈ left, isBlank c = true)
    (hright : ∀ c ∈ right, isBlank c = true) : strip (left ++ t ++ right) = t :=
  trimWhile_pad hleft hright ht.head ht.last

theorem last_strip (t : Text) : ∀ c ∈ (strip t).getLast?, isBlank c = false :=
  last_dropWhileEnd isBlank (t.dropWhile isBlank)

theorem strip_eq (ht : t.IsTrim) : strip t = t := by
  have hpad := strip_pad ht (List.forall_mem_nil _) (List.forall_mem_nil _)
  rwa [List.nil_append, List.append_nil] at hpad

end Trim

/-! ## Cutting -/

section Cut

variable {x : Char} {sep a b t : Text}

theorem cut_append (h : x ∉ a) : cut (x :: sep) (a ++ (x :: sep) ++ b) = some (a, b) := by
  induction a with
  | nil =>
      rw [List.nil_append, List.cons_append, cut, if_pos (by simp)]
      simp
  | cons c a ih =>
      obtain ⟨hc, ha⟩ := not_or.1 (mt List.mem_cons.2 h)
      have hno : ¬ (x :: sep).isPrefixOf (c :: (a ++ (x :: sep) ++ b)) = true := by
        simp [hc]
      rw [List.cons_append, List.cons_append, cut, if_neg hno, ih ha]
      rfl

/-- A cut at a character is one at its first occurrence. -/
theorem cut_eq_some_iff : cut [x] t = some (a, b) ↔ x ∉ a ∧ t = a ++ x :: b := by
  constructor
  · intro h
    have ht := cut_eq_some h
    rcases clean_or_first (· = x) t with hclean | ⟨first, y, later, hsplit, hy, hfirst⟩
    · exact absurd (hclean x (ht ▸ by simp)) (by simp)
    · obtain rfl : y = x := by simpa using hy
      have hno : y ∉ first := fun hmem => absurd (hfirst y hmem) (by simp)
      have hcut := @cut_append y [] first later hno
      rw [List.append_assoc, List.singleton_append, ← hsplit, h] at hcut
      cases hcut
      exact ⟨hno, hsplit⟩
  · rintro ⟨h, rfl⟩
    have hcut := @cut_append x [] a b h
    rwa [List.append_assoc] at hcut

theorem cut_of_notMem (h : x ∉ t) : cut (x :: sep) t = none := by
  cases hcut : cut (x :: sep) t with
  | none => rfl
  | some parts => exact absurd (cut_eq_some hcut ▸ by simp) h

/-- A text does not hold a separator when it holds too few of one of its characters. -/
theorem cut_of_count_lt {sep : Text} (h : t.count x < sep.count x) :
    cut sep t = none := by
  cases hcut : cut sep t with
  | none => rfl
  | some parts =>
      rw [cut_eq_some hcut, List.count_append, List.count_append] at h
      omega

theorem before_append (h : x ∉ a) : before (x :: sep) (a ++ (x :: sep) ++ b) = a := by
  rw [before, cut_append h]

theorem after_append (h : x ∉ a) : after (x :: sep) (a ++ (x :: sep) ++ b) = b := by
  rw [after, cut_append h]

theorem before_of_notMem (h : x ∉ t) : before (x :: sep) t = t := by
  rw [before, cut_of_notMem h]

theorem after_of_notMem (h : x ∉ t) : after (x :: sep) t = [] := by
  rw [after, cut_of_notMem h]

theorem splitAtText_of_notMem (h : x ∉ t) : splitAtText (x :: sep) t = [t] := by
  rw [splitAtText, cut_of_notMem h]

theorem splitAtText_append (h : x ∉ a) :
    splitAtText (x :: sep) (a ++ (x :: sep) ++ b) = a :: splitAtText (x :: sep) b := by
  rw [splitAtText, cut_append h]
  simp only [List.length_append, List.length_cons]
  rw [dif_pos (by omega)]

/-- The pieces are read back when none of them holds the character that the separator
starts with. -/
theorem splitAtText_join {pieces : List Text} (hne : pieces ≠ [])
    (h : ∀ piece ∈ pieces, x ∉ piece) :
    splitAtText (x :: sep) (join (x :: sep) pieces) = pieces := by
  induction pieces with
  | nil => exact absurd rfl hne
  | cons piece pieces ih =>
      obtain ⟨hpiece, hpieces⟩ := List.forall_mem_cons.1 h
      cases pieces with
      | nil => exact splitAtText_of_notMem hpiece
      | cons next pieces =>
          rw [join]
          · rw [splitAtText_append hpiece, ih (by simp) hpieces]
          · simp

/-- A cut at the last separator is known as soon as the character that it ends with does
not occur behind it. -/
theorem cutLast_append_of_notMem (h : x ∉ b) :
    cutLast (sep ++ [x]) (a ++ (sep ++ [x]) ++ b) = some (a, b) := by
  have hcut := @cut_append x sep.reverse b.reverse a.reverse (by rwa [List.mem_reverse])
  have hreverse : (a ++ (sep ++ [x]) ++ b).reverse = b.reverse ++ (x :: sep.reverse) ++
      a.reverse := by simp
  have hsep : (sep ++ [x]).reverse = x :: sep.reverse := List.reverse_concat
  rw [cutLast, hreverse, hsep, hcut, Option.map_some, List.reverse_reverse,
    List.reverse_reverse]

theorem cutLast_append (h : x ∉ b) : cutLast [x] (a ++ [x] ++ b) = some (a, b) :=
  @cutLast_append_of_notMem x [] a b h

theorem cutLast_concat (a : Text) (x : Char) : cutLast [x] (a ++ [x]) = some (a, []) := by
  have hcut := @cutLast_append x a [] List.not_mem_nil
  rwa [List.append_nil] at hcut

theorem cutLast_of_notMem (h : x ∉ t) : cutLast (sep ++ [x]) t = none := by
  have hsep : (sep ++ [x]).reverse = x :: sep.reverse := List.reverse_concat
  rw [cutLast, hsep, cut_of_notMem (by rwa [List.mem_reverse]), Option.map_none]

/-- The piece behind the last separator is the last one. -/
theorem afterLast_join {pieces : List Text} (hne : pieces ≠ [])
    (h : ∀ piece ∈ pieces, x ∉ piece) :
    afterLast (sep ++ [x]) (join (sep ++ [x]) pieces) = pieces.getLast hne := by
  obtain ⟨front, last, rfl⟩ := (List.eq_nil_or_concat pieces).resolve_left hne
  rw [List.concat_eq_append] at h
  have hlast : x ∉ last := h last (List.mem_append_right _ List.mem_cons_self)
  simp only [List.concat_eq_append, List.getLast_concat]
  by_cases hfront : front = []
  · subst hfront
    rw [List.nil_append, join, afterLast, cutLast_of_notMem hlast]
  · rw [join_concat _ hfront, afterLast, cutLast_append_of_notMem hlast]

end Cut

/-! ## Lists of names -/

section Names

variable {pieces : List Text}

theorem forall_mem_join {P : Char → Prop} {sep : Text} (hsep : ∀ c ∈ sep, P c)
    (h : ∀ piece ∈ pieces, ∀ c ∈ piece, P c) : ∀ c ∈ join sep pieces, P c := by
  induction pieces with
  | nil => exact List.forall_mem_nil _
  | cons first pieces ih =>
      obtain ⟨hfirst, hpieces⟩ := List.forall_mem_cons.1 h
      cases pieces with
      | nil => exact hfirst
      | cons next pieces =>
          have hrest := ih hpieces
          rw [join]
          · exact List.forall_mem_append.2
              ⟨List.forall_mem_append.2 ⟨hfirst, hsep⟩, hrest⟩
          · simp

theorem join_cons_sep (x : Char) (pad first : Text) (pieces : List Text) :
    join (x :: pad) (first :: pieces) = join [x] (first :: pieces.map (pad ++ ·)) := by
  induction pieces generalizing first with
  | nil => rfl
  | cons next pieces ih =>
      have hpad : join [x] ((pad ++ next) :: pieces.map (pad ++ ·)) =
          pad ++ join [x] (next :: pieces.map (pad ++ ·)) := by
        cases pieces <;> simp [join]
      have hcons (sep first next : Text) (pieces : List Text) :
          join sep (first :: next :: pieces) = first ++ sep ++
            join sep (next :: pieces) := rfl
      rw [hcons, ih, List.map_cons, hcons, hpad]
      simp

/-- Entries separated by commas, with whatever stands around each. -/
theorem names_join (hne : pieces ≠ []) (hcomma : ∀ piece ∈ pieces, ',' ∉ piece) :
    names (join [','] pieces) = (pieces.map strip).filter (· ≠ []) := by
  rw [names, split_join hne hcomma]

/-- Entries separated by commas and a space. -/
theorem names_join_space (hcomma : ∀ piece ∈ pieces, ',' ∉ piece)
    (htrim : ∀ piece ∈ pieces, piece.IsTrim ∧ piece ≠ []) :
    names (join ", ".toList pieces) = pieces := by
  cases pieces with
  | nil => rfl
  | cons first pieces =>
      have hstrip : (first :: pieces.map ([' '] ++ ·)).map strip = first :: pieces := by
        obtain ⟨⟨hfirst, -⟩, hpieces⟩ := List.forall_mem_cons.1 htrim
        rw [List.map_cons, List.map_map, strip_eq hfirst]
        refine
          congrArg _ ((List.map_congr_left fun piece hpiece => ?_).trans (List.map_id _))
        have hpad :=
          strip_pad (hpieces piece hpiece).1 (by decide : ∀ c ∈ [' '], isBlank c = true)
          (List.forall_mem_nil _)
        rwa [List.append_nil] at hpad
      have hnone : ∀ piece ∈ first :: pieces.map ([' '] ++ ·), ',' ∉ piece := by
        simpa using hcomma
      show names (join (',' :: [' ']) (first :: pieces)) = _
      rw [join_cons_sep, names_join (by simp) hnone, hstrip]
      exact List.filter_eq_self.2 fun piece hpiece => by
        simpa using (htrim piece hpiece).2

end Names

end Text

end ImpactGraph
