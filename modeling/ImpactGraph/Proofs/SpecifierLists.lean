import ImpactGraph.Proofs.ImportClauses
import ImpactGraph.Proofs.TextWords

/-!
# Lists of names in braces

What is written between braces, in any layout, and what is read there. The
words `type` and `as` are names like any others, so an entry may hold them as
names and as marks; a reader that looks for the mark first has decided what
the entry is before it comes to the second word. One kind of entry is lost to
that, and `ofText?_aliasedType` follows it to the end: something called `type`
under another name is taken for a marked entry, and what is left behind the
mark is no name. All others are read as they are meant, the first separator
being where the printer put it, since no name holds a blank.
-/

namespace ImpactGraph.Rules.JavaScript

open Text

namespace Entry

variable {e : Entry}

/-- The binding that an entry stands for: under its own name when no other is written. -/
def specifier (e : Entry) : Specifier :=
  ⟨e.imported, e.renamed.getD e.imported, e.typeOnly⟩

/-- Something called `type`, under another name and without a mark: `type as x`. -/
def IsAliasedType (e : Entry) : Prop :=
  e.typeOnly = false ∧ e.imported = "type".toList ∧ e.renamed.isSome = true

instance : DecidablePred IsAliasedType :=
  fun e => inferInstanceAs (Decidable (e.typeOnly = false ∧ _ ∧ _))

theorem HasNames.proper (h : e.HasNames) (hplain : ¬ e.IsAliasedType) : e.IsProper := by
  refine ⟨h.imported, h.renamed, fun htype hname => ?_⟩
  exact Option.not_isSome_iff_eq_none.1 fun hsome => hplain ⟨htype, hname, hsome⟩

/-- Behind the word that is taken for a mark stands `as` with one more name, and that is
no name. -/
theorem ofText?_aliasedType (h : e.HasNames) (haliased : e.IsAliasedType) :
    Specifier.ofText? e.text = none := by
  obtain ⟨hplain, hname, hsome⟩ := haliased
  obtain ⟨renamed, hrenamed⟩ := Option.isSome_iff_exists.1 hsome
  have hlocal := h.renamed renamed hrenamed
  have hspace : ' ' ∉ renamed := hlocal.notMem (by decide)
  have htext : e.text = "type ".toList ++ ("as ".toList ++ renamed) := by
    rw [text, if_neg (by simp [hplain]), body, hrenamed, hname]
    rfl
  have htrim : Text.IsTrim ("as ".toList ++ renamed) := by
    have has : Text.IsTrim "as".toList := ⟨by decide, by decide⟩
    exact has.between [' '] hlocal.trim (by decide) hlocal.ne_nil
  have hmark : startsWith e.text "type ".toList = true := by
    rw [htext]
    exact startsWith_iff.2 (List.prefix_append _ _)
  have hrest : strip (e.text.drop 5) = "as ".toList ++ renamed := by
    rw [htext]
    exact strip_eq htrim
  -- A second separator would need one more blank.
  have hno : cut " as ".toList ("as ".toList ++ renamed) = none := by
    refine cut_of_count_lt (x := ' ') ?_
    rw [List.count_append, List.count_eq_zero.2 hspace]
    decide
  have hwhole : strip (before " as ".toList ("as ".toList ++ renamed)) =
      "as ".toList ++ renamed := by
    rw [before, hno]
    exact strip_eq htrim
  have hbad : isIdentifier ("as ".toList ++ renamed) = false := by
    have hlast : ("as ".toList ++ renamed).getLast? ≠ some '\n' := fun hbreak => by
      have hpart := last_append hlocal.ne_nil
        (fun c hc => hlocal.part c (List.mem_of_getLast? hc)) "as ".toList '\n' hbreak
      exact absurd hpart (by decide)
    refine Bool.eq_false_iff.2 fun hid => ?_
    obtain ⟨c, rest, hsplit, -, hall⟩ := exists_of_isIdentifier_of_last hid hlast
    exact absurd (hall ' ' (hsplit ▸ by simp)) (by decide)
  have hdefault : "as ".toList ++ renamed ≠ "default".toList := by
    intro hd
    exact absurd (congrArg List.head? hd) (by simp)
  unfold Specifier.ofText?
  simp only [hmark, if_true, hrest, hwhole, hbad, Bool.false_or, decide_eq_true_eq,
    if_neg hdefault]

theorem ofText?_eq (h : e.HasNames) :
    Specifier.ofText? e.text = if e.IsAliasedType then none else some e.specifier := by
  split
  · next haliased => exact ofText?_aliasedType h haliased
  · next hplain => exact ofText?_text (h.proper hplain)

end Entry

/-- An entry in a list, with the blanks that stand around it. -/
structure Piece where
  before : Text
  entry : Entry
  behind : Text

namespace Piece

def text (p : Piece) : Text := p.before ++ p.entry.text ++ p.behind

structure IsProper (p : Piece) : Prop where
  before : ∀ c ∈ p.before, isBlank c = true
  names : p.entry.HasNames
  behind : ∀ c ∈ p.behind, isBlank c = true

variable {p : Piece}

theorem IsProper.strip_text (h : p.IsProper) : strip p.text = p.entry.text :=
  strip_pad (Entry.trim_text h.names).1 h.before h.behind

theorem IsProper.notMem_text (h : p.IsProper) : ',' ∉ p.text := by
  have hpad {s : Text} (hs : ∀ c ∈ s, isBlank c = true) : ',' ∉ s :=
    fun hmem => absurd (hs _ hmem) (by decide)
  have hentry : ',' ∉ p.entry.text := Entry.notMem_text h.names (by decide) (by decide)
  simp [text, hpad h.before, hpad h.behind, hentry]

end Piece

/-- The text of a list in braces, without the braces. -/
def listText (lead : Text) (pieces : List Piece) : Text :=
  lead ++ join [','] (pieces.map Piece.text)

section Lists

variable {lead : Text} {pieces : List Piece}

theorem names_listText (hlead : ∀ c ∈ lead, isBlank c = true)
    (h : ∀ p ∈ pieces, p.IsProper) :
    names (listText lead pieces) = pieces.map fun p => p.entry.text := by
  rw [listText, names_pad hlead]
  by_cases hnil : pieces = []
  · subst hnil
    rfl
  · have hcomma : ∀ t ∈ pieces.map Piece.text, ',' ∉ t := by
      simpa using fun p hp => (h p hp).notMem_text
    have hstrip : (pieces.map Piece.text).map strip = pieces.map fun p =>
        p.entry.text := by
      rw [List.map_map]
      exact List.map_congr_left fun p hp => (h p hp).strip_text
    rw [names_join (by simpa using hnil) hcomma, hstrip]
    exact List.filter_eq_self.2
      (by simpa using fun p hp => (Entry.trim_text (h p hp).names).2)

theorem specifiers_listText (hlead : ∀ c ∈ lead, isBlank c = true)
    (h : ∀ p ∈ pieces, p.IsProper) :
    specifiers (listText lead pieces) =
      ((pieces.map (·.entry)).filter fun e => ¬ e.IsAliasedType).map Entry.specifier := by
  rw [specifiers, names_listText hlead h]
  clear hlead
  induction pieces with
  | nil => rfl
  | cons p pieces ih =>
      obtain ⟨hp, hpieces⟩ := List.forall_mem_cons.1 h
      rw [List.map_cons, List.filterMap_cons, Entry.ofText?_eq hp.names, List.map_cons]
      by_cases haliased : p.entry.IsAliasedType
      · rw [if_pos haliased,
          List.filter_cons_of_neg (by simpa using haliased), ih hpieces]
      · rw [if_neg haliased,
          List.filter_cons_of_pos (by simpa using haliased), ih hpieces,
          List.map_cons]

/-- In every layout a list is read entry by entry, but for what is called `type` and has
another name without a mark: that is left out. So the list comes back just as it was
written exactly when there is no such entry. -/
theorem specifiers_unless_aliasedType (hlead : ∀ c ∈ lead, isBlank c = true)
    (h : ∀ p ∈ pieces, p.IsProper) :
    specifiers (listText lead pieces) =
        ((pieces.map (·.entry)).filter fun e => ¬ e.IsAliasedType).map Entry.specifier ∧
      (specifiers (listText lead pieces) = pieces.map (·.entry.specifier) ↔
        ∀ p ∈ pieces, ¬ p.entry.IsAliasedType) := by
  have hread := specifiers_listText hlead h
  have hall : pieces.map (·.entry.specifier) =
      (pieces.map (·.entry)).map Entry.specifier := by
    rw [List.map_map]
    rfl
  refine ⟨hread, fun hsame => ?_, fun hnone => ?_⟩
  · -- Nothing is put in the place of an entry that is left out, so the lists differ in
    -- length.
    rw [hread, hall] at hsame
    have hlength := congrArg List.length hsame
    rw [List.length_map, List.length_map, List.length_filter_eq_length_iff] at hlength
    simpa using hlength
  · rw [hread, hall, List.filter_eq_self.2 (by simpa using hnone)]

end Lists

/-- A list over several lines with the words of the grammar in all places. -/
def wordyList : List Piece :=
  [⟨"\n  ".toList, ⟨"type".toList, none, true⟩, []⟩,
    ⟨" ".toList, ⟨"as".toList, some "as".toList, true⟩, "\t".toList⟩,
    ⟨[], ⟨"default".toList, some "from".toList, false⟩, []⟩,
    ⟨" ".toList, ⟨"type".toList, some "kind".toList, false⟩, "\n".toList⟩]

theorem specifiers_of_wordyList :
    (∀ p ∈ wordyList, p.IsProper) ∧
      listText [] wordyList =
        "\n  type type, type as as as\t,default as from, type as kind\n".toList ∧
      specifiers (listText [] wordyList) =
        [⟨"type".toList, "type".toList, true⟩, ⟨"as".toList, "as".toList, true⟩,
          ⟨"default".toList, "from".toList, false⟩] := by
  have hproper {before behind imported : Text} {renamed : Option Text} {typeOnly : Bool}
      (hbefore : ∀ c ∈ before, isBlank c = true) (hbehind : ∀ c ∈ behind,
        isBlank c = true)
      (himported : isIdentifier imported = true ∧ '\n' ∉ imported)
      (hrenamed : ∀ name ∈ renamed, isIdentifier name = true ∧ '\n' ∉ name) :
      (⟨before, ⟨imported, renamed, typeOnly⟩, behind⟩ : Piece).IsProper :=
    ⟨hbefore, ⟨himported, hrenamed⟩, hbehind⟩
  have hpieces : ∀ p ∈ wordyList, p.IsProper := by
    simp only [wordyList, List.forall_mem_cons]
    refine ⟨?_, ?_, ?_, ?_, List.forall_mem_nil _⟩ <;>
      exact hproper (by decide) (by decide) (by decide) (by decide)
  refine ⟨hpieces, by decide, ?_⟩
  rw [(specifiers_unless_aliasedType (List.forall_mem_nil _) hpieces).1]
  decide

/-- An entry with good names is left out, and where it is the only one the statement finds
nothing, not even the file that it names. -/
theorem aliasedType_lost :
    let e : Entry := ⟨"type".toList, some "kind".toList, false⟩
    e.HasNames ∧ e.text = "type as kind".toList ∧ specifiers e.text ≠ [e.specifier] ∧
      ∀ site, importFindings site false ("\x7b ".toList ++ e.text ++ " \x7d".toList) =
        [] := by
  refine ⟨⟨⟨by decide, by decide⟩, ?_⟩, by decide, by decide, fun site => ?_⟩
  · rintro name ⟨⟩
    exact ⟨by decide, by decide⟩
  · rfl

end ImpactGraph.Rules.JavaScript
