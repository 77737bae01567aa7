import Mathlib.Data.List.Basic
import ImpactGraph.Proofs.RecordedFindings
import ImpactGraph.Proofs.TextWords
import ImpactGraph.Rules.Python

/-!
# Names that a package is asked for

The grammar of what stands behind the package: a star, or names, each of them
with another name to be bound to or without. The names stand on the line of the
statement, or in parentheses with any blanks between the words, so that a list
can go over many lines.

The rule sets what it reads in single spaces before it looks for names, so a
list in parentheses and the same list on one line are read alike
(`importedNames_text`). What is found for a name depends on the files there are:
a name that is a file of its own leads there, any other to the package.
-/

namespace ImpactGraph.Rules.Python

open Text

/-! ## The grammar -/

/-- A name that a statement can hold: an identifier of the rules, without the dollar sign
that the language does not know. -/
structure IsName (name : Text) : Prop where
  identifier : isIdentifier name = true
  word : ∀ c ∈ name, isWord c = true
  /-- Of the reserved words only this one could be mistaken for a statement. -/
  free : name ≠ "import".toList

/-- Names with dots between them. -/
def IsModule (module : Text) : Prop :=
  ∃ names, names ≠ [] ∧ (∀ name ∈ names, IsName name) ∧ module = join ['.'] names

/-- A module, or dots that climb with a module or nothing behind them. -/
inductive IsPackage : Text → Prop where
  | absolute {module : Text} (h : IsModule module) : IsPackage module
  | relative (above : Nat) {module : Text} (h : module = [] ∨ IsModule module) :
      IsPackage (List.replicate (above + 1) '.' ++ module)

/-- What is imported, and the name it is bound to when it is another one. -/
structure Entry where
  name : Text
  renamed : Option Text
  deriving DecidableEq, Repr

/-- The blanks of an entry: around it, and around the word before its other name. -/
structure Gaps where
  lead : Text
  before : Text
  after : Text
  trail : Text
  deriving DecidableEq, Repr

/-- Single spaces, behind a text of one's choice. -/
def Gaps.single (lead : Text) : Gaps := ⟨lead, [' '], [' '], []⟩

def Gaps.all (gaps : Gaps) : List Text := [gaps.lead, gaps.before, gaps.after, gaps.trail]

/-- Names to import from a package. -/
inductive Clause where
  | star
  | line (entries : List Entry)
  /-- A list in parentheses; behind a last comma there are only blanks. -/
  | spread (entries : List (Entry × Gaps)) (comma : Option Text)
  deriving DecidableEq, Repr

namespace Entry

def words (e : Entry) : List Text :=
  match e.renamed with
  | none => [e.name]
  | some renamed => [e.name, "as".toList, renamed]

def text (e : Entry) : Text := join [' '] e.words

/-- The entry with blanks of one's choice. -/
def spread (e : Entry) (gaps : Gaps) : Text :=
  match e.renamed with
  | none => gaps.lead ++ e.name ++ gaps.trail
  | some renamed =>
    gaps.lead ++ e.name ++ gaps.before ++ "as".toList ++ gaps.after ++
      renamed ++ gaps.trail

structure IsProper (e : Entry) (Named : Text → Prop) : Prop where
  name : Named e.name
  renamed : ∀ name ∈ e.renamed, IsName name

end Entry

/-- Blanks that keep the words of an entry apart. -/
structure Gaps.IsProper (gaps : Gaps) : Prop where
  blank : ∀ gap ∈ gaps.all, ∀ c ∈ gap, isBlank c = true
  before : gaps.before ≠ []
  after : gaps.after ≠ []

namespace Clause

/-- Entries with commas between them, and perhaps one behind the last. -/
def body (entries : List (Entry × Gaps)) (comma : Option Text) : Text :=
  join [','] (entries.map (fun x => x.1.spread x.2) ++ comma.toList)

def text : Clause → Text
  | star => ['*']
  | line entries => join ", ".toList (entries.map Entry.text)
  | spread entries comma => '(' :: (body entries comma ++ [')'])

def entries : Clause → List Entry
  | star => []
  | line entries => entries
  | spread entries _ => entries.map Prod.fst

def IsProper : Clause → Prop
  | star => True
  | line entries => entries ≠ [] ∧ ∀ e ∈ entries, e.IsProper IsName
  | spread entries comma =>
    entries ≠ [] ∧ (∀ x ∈ entries, x.1.IsProper IsName ∧ x.2.IsProper) ∧
      ∀ gap ∈ comma, ∀ c ∈ gap, isBlank c = true

end Clause

/-! ## Names -/

namespace IsName

variable {name : Text}

theorem notBlank (h : IsName name) : ∀ c ∈ name, isBlank c = false :=
  fun c hc => isBlank_of_isWord (h.word c hc)

theorem exists_start (h : IsName name) : ∃ c rest, name = c :: rest ∧
    isIdentifierStart c = true := by
  have hbreak : '\n' ∉ name := fun hmem => absurd (h.word _ hmem) (by decide)
  obtain ⟨c, rest, hname, hc, -⟩ := exists_of_isIdentifier h.identifier hbreak
  exact ⟨c, rest, hname, hc⟩

theorem ne_nil (h : IsName name) : name ≠ [] := by
  obtain ⟨c, rest, rfl, -⟩ := h.exists_start
  exact List.cons_ne_nil c rest

end IsName

namespace IsModule

variable {module : Text}

theorem ne_nil (h : IsModule module) : module ≠ [] := by
  obtain ⟨names, hne, hnames, rfl⟩ := h
  exact join_ne_nil (fun name hname => (hnames name hname).ne_nil) hne

theorem dotted (h : IsModule module) : ∀ c ∈ module, isDottedChar c = true := by
  obtain ⟨names, -, hnames, rfl⟩ := h
  refine forall_mem_join (by decide) fun name hname c hc => ?_
  rw [isDottedChar, (hnames name hname).word c hc, Bool.true_or]

theorem identifiers (h : IsModule module) :
    (split '.' module).all isIdentifier = true := by
  obtain ⟨names, hne, hnames, rfl⟩ := h
  have hdot : ∀ name ∈ names, '.' ∉ name := fun name hname hmem =>
    absurd ((hnames name hname).word _ hmem) (by decide)
  rw [split_join hne hdot]
  exact List.all_eq_true.2 fun name hname => (hnames name hname).identifier

end IsModule

theorem IsName.module {name : Text} (h : IsName name) : IsModule name :=
  ⟨[name], List.cons_ne_nil name [], by simpa using h, rfl⟩

theorem isBlank_of_isDottedChar {c : Char} (h : isDottedChar c = true) :
    isBlank c = false := by
  rcases Bool.or_eq_true_iff.1 h with h | h
  · exact isBlank_of_isWord h
  · rw [of_decide_eq_true h]
    decide

theorem IsModule.head {module : Text} (h : IsModule module) :
    ∀ x ∈ module.head?, decide (x = '.') = false := by
  obtain ⟨names, hne, hnames, rfl⟩ := h
  obtain ⟨name, names, rfl⟩ := List.exists_cons_of_ne_nil hne
  have hname := hnames name List.mem_cons_self
  obtain ⟨c, rest, rfl, -⟩ := hname.exists_start
  have hc : decide (c = '.') = false := by
    refine decide_eq_false ?_
    rintro rfl
    exact absurd (hname.word '.' List.mem_cons_self) (by decide)
  cases names <;> simpa [join] using hc

theorem IsModule.notBlank {module : Text} (h : IsModule module) :
    ∀ c ∈ module, isBlank c = false :=
  fun c hc => isBlank_of_isDottedChar (h.dotted c hc)

theorem IsPackage.ne_nil {package : Text} (h : IsPackage package) : package ≠ [] := by
  cases h with
  | absolute h => exact h.ne_nil
  | relative above h => simp

theorem IsPackage.dotted {package : Text} (h : IsPackage package) :
    ∀ x ∈ package, isDottedChar x = true := by
  cases h with
  | absolute h => exact h.dotted
  | relative above h =>
      refine List.forall_mem_append.2 ⟨fun x hx => ?_, ?_⟩
      · rw [List.eq_of_mem_replicate hx]
        decide
      · rcases h with rfl | h
        · exact List.forall_mem_nil _
        · exact h.dotted

/-! ## Entries -/

namespace Entry

variable {Named : Text → Prop} {e : Entry} {gaps : Gaps} {entries : List Entry}
  {p : Char → Bool}

/-- The words of an entry are those it was made of, for all ways to tell words from
blanks. -/
theorem fields_spread (h : e.IsProper IsName) (hgaps : gaps.IsProper)
    (hblank : ∀ c, isBlank c = true → p c = true)
    (hword : ∀ c, isWord c = true → p c = false) :
    fields p (e.spread gaps) = e.words := by
  have hall : ∀ gap ∈ gaps.all, ∀ c ∈ gap, p c = true :=
    fun gap hgap c hc => hblank c (hgaps.blank gap hgap c hc)
  simp only [Gaps.all, List.forall_mem_cons] at hall
  obtain ⟨hlead, hbefore, hafter, htrail, -⟩ := hall
  have hhead {gap t : Text} (hne : gap ≠ []) (hgap : ∀ c ∈ gap, p c = true) :
      ∀ x ∈ (gap ++ t).head?, p x = true := by
    obtain ⟨c, gap, rfl⟩ := List.exists_cons_of_ne_nil hne
    rintro x ⟨⟩
    exact hgap c List.mem_cons_self
  have hlast : ∀ x ∈ gaps.trail.head?, p x = true :=
    fun x hx => htrail x (List.mem_of_head? hx)
  have hclean {name : Text} (h : IsName name) : ∀ c ∈ name, p c = false :=
    fun c hc => hword c (h.word c hc)
  unfold spread words
  split
  · rw [List.append_assoc, fields_pad hlead,
      fields_append (hclean h.name) h.name.ne_nil hlast, fields_of_forall_pos htrail]
  · next renamed hsome =>
      have hlocal := h.renamed renamed hsome
      have has : ∀ c ∈ "as".toList, p c = false := by
        simp [hword 'a' (by decide), hword 's' (by decide)]
      simp only [List.append_assoc]
      rw [fields_pad hlead,
        fields_append (hclean h.name) h.name.ne_nil (hhead hgaps.before hbefore),
        fields_pad hbefore, fields_append has (by decide) (hhead hgaps.after hafter),
        fields_pad hafter, fields_append (hclean hlocal) hlocal.ne_nil hlast,
        fields_of_forall_pos htrail]

theorem forall_mem_spread {P : Char → Prop} (h : e.IsProper IsName)
    (hword : ∀ c, isWord c = true → P c) (hgaps : ∀ gap ∈ gaps.all, ∀ c ∈ gap, P c) :
    ∀ c ∈ e.spread gaps, P c := by
  have hname := fun c hc => hword c (h.name.word c hc)
  unfold spread
  split
  · simp only [List.forall_mem_append]
    exact ⟨⟨hgaps _ (by simp [Gaps.all]), hname⟩, hgaps _ (by simp [Gaps.all])⟩
  · next renamed hsome =>
      have hlocal := fun c hc => hword c ((h.renamed renamed hsome).word c hc)
      have has : ∀ c ∈ "as".toList, P c := by
        simp [hword 'a' (by decide), hword 's' (by decide)]
      simp only [List.forall_mem_append]
      exact
        ⟨⟨⟨⟨⟨⟨hgaps _ (by simp [Gaps.all]), hname⟩, hgaps _ (by simp [Gaps.all])⟩, has⟩,
        hgaps _ (by simp [Gaps.all])⟩, hlocal⟩, hgaps _ (by simp [Gaps.all])⟩

theorem spread_single (e : Entry) (lead : Text) :
    e.spread (.single lead) = lead ++ e.text := by
  unfold spread text words Gaps.single
  split <;> simp [join]

theorem IsProper.module (h : e.IsProper IsName) : e.IsProper IsModule :=
  ⟨h.name.module, h.renamed⟩

theorem IsProper.notMem_words (h : e.IsProper IsName) : "import".toList ∉ e.words := by
  unfold words
  split
  · simpa using h.name.free.symm
  · next renamed hsome =>
      have hlocal := h.renamed renamed hsome
      simp only [List.mem_cons, List.not_mem_nil, or_false, not_or]
      exact ⟨h.name.free.symm, by decide, hlocal.free.symm⟩

theorem trim_text (h : e.IsProper IsModule) : e.text.IsTrim ∧ e.text ≠ [] := by
  have hwords : ∀ word ∈ e.words, word.IsTrim ∧ word ≠ [] := by
    have hname : e.name.IsTrim := .of_forall h.name.notBlank
    unfold words
    split
    · simp [hname, h.name.ne_nil]
    · next renamed hsome =>
        have hlocal := h.renamed renamed hsome
        have has : Text.IsTrim "as".toList := ⟨by decide, by decide⟩
        simp only [List.forall_mem_cons]
        exact ⟨⟨hname, h.name.ne_nil⟩, ⟨has, by decide⟩,
          ⟨.of_forall hlocal.notBlank, hlocal.ne_nil⟩, List.forall_mem_nil _⟩
  have hsome : e.words ≠ [] := by
    unfold words
    split <;> simp
  exact ⟨trim_join _ hwords, join_ne_nil (fun word hword => (hwords word hword).2) hsome⟩

theorem forall_mem_text {P : Char → Prop} (h : e.IsProper IsModule)
    (hdotted : ∀ c, isDottedChar c = true → P c) (hspace : P ' ') :
    ∀ c ∈ e.text, P c := by
  have hname := fun c hc => hdotted c (h.name.dotted c hc)
  refine forall_mem_join (by simpa using hspace) ?_
  unfold words
  split
  · simpa using hname
  · next renamed hsome =>
      have hlocal := fun c hc => hdotted c ((h.renamed renamed hsome).module.dotted c hc)
      have has : ∀ c ∈ "as".toList, P c := by
        simp [hdotted 'a' (by decide), hdotted 's' (by decide)]
      simp only [List.forall_mem_cons]
      exact ⟨hname, has, hlocal, List.forall_mem_nil _⟩

theorem forall_mem_texts {P : Char → Prop} (h : ∀ e ∈ entries, e.IsProper IsModule)
    (hdotted : ∀ c, isDottedChar c = true → P c) (hspace : P ' ') (hcomma : P ',') :
    ∀ c ∈ join ", ".toList (entries.map text), P c := by
  refine forall_mem_join (by simp [hspace, hcomma]) fun piece hpiece => ?_
  obtain ⟨e, he, rfl⟩ := List.mem_map.1 hpiece
  exact forall_mem_text (h e he) hdotted hspace

theorem trim_texts (hne : entries ≠ []) (h : ∀ e ∈ entries, e.IsProper IsModule) :
    (join ", ".toList (entries.map text)).IsTrim ∧
      join ", ".toList (entries.map text) ≠ [] := by
  have htexts : ∀ piece ∈ entries.map text, piece.IsTrim ∧ piece ≠ [] := by
    intro piece hpiece
    obtain ⟨e, he, rfl⟩ := List.mem_map.1 hpiece
    exact trim_text (h e he)
  exact ⟨trim_join _ htexts,
    join_ne_nil (fun piece hpiece => (htexts piece hpiece).2) (by simpa using hne)⟩

theorem splitAlias_text (h : e.IsProper IsModule) :
    splitAlias e.text = (e.name, e.renamed) := by
  have hno : ' ' ∉ e.name := fun hmem => absurd (h.name.notBlank _ hmem) (by decide)
  have hstrip := strip_eq (.of_forall h.name.notBlank)
  cases hsome : e.renamed with
  | none =>
      have htext : e.text = e.name := by simp [text, words, hsome, join]
      have hbefore : before " as ".toList e.name = e.name := before_of_notMem hno
      have hafter : after " as ".toList e.name = [] := after_of_notMem hno
      rw [splitAlias, htext]
      simp only [hbefore, hafter, hstrip]
      rfl
  | some renamed =>
      have hlocal := h.renamed renamed hsome
      have htext : e.text = e.name ++ " as ".toList ++ renamed := by
        simp [text, words, hsome, join]
      have hbefore : before " as ".toList (e.name ++ " as ".toList ++ renamed) = e.name :=
        before_append hno
      have hafter : after " as ".toList (e.name ++ " as ".toList ++ renamed) = renamed :=
        after_append hno
      rw [splitAlias, htext]
      simp only [hbefore, hafter, hstrip, strip_eq (.of_forall hlocal.notBlank),
        if_neg hlocal.ne_nil]

end Entry

/-! ## Clauses -/

theorem dropComments_append {a b : Text} (h : '#' ∉ a) :
    dropComments (a ++ b) = a ++ dropComments b := by
  induction a with
  | nil => rfl
  | cons c a ih =>
      obtain ⟨hc, ha⟩ := not_or.1 (mt List.mem_cons.2 h)
      rw [List.cons_append, dropComments, if_neg (Ne.symm hc), ih ha, List.cons_append]

theorem dropComments_of_notMem {t : Text} (h : '#' ∉ t) : dropComments t = t := by
  have hdrop := @dropComments_append t [] h
  rwa [List.append_nil, dropComments, List.append_nil] at hdrop

namespace Clause

variable {entries : List Entry} {placed : List (Entry × Gaps)} {comma : Option Text}
  {clause : Clause}

/-- What is written in parentheses, or could be. -/
structure IsPlaced (placed : List (Entry × Gaps)) (comma : Option Text) : Prop where
  ne_nil : placed ≠ []
  entry : ∀ x ∈ placed, x.1.IsProper IsName
  gaps : ∀ x ∈ placed, x.2.IsProper
  comma : ∀ gap ∈ comma, ∀ c ∈ gap, isBlank c = true

theorem forall_mem_body {P : Char → Prop} (h : ∀ x ∈ placed, x.1.IsProper IsName)
    (hword : ∀ c, isWord c = true → P c) (hcomma : P ',')
    (hgaps : ∀ x ∈ placed, ∀ gap ∈ x.2.all, ∀ c ∈ gap, P c)
    (hlast : ∀ gap ∈ comma, ∀ c ∈ gap, P c) : ∀ c ∈ body placed comma, P c := by
  refine forall_mem_join (by simpa using hcomma)
    (List.forall_mem_append.2 ⟨?_, by simpa using hlast⟩)
  intro piece hpiece
  obtain ⟨x, hx, rfl⟩ := List.mem_map.1 hpiece
  exact Entry.forall_mem_spread (h x hx) hword (hgaps x hx)

theorem names_body (h : IsPlaced placed comma) :
    names (singleSpaced (body placed comma)) = placed.map fun x => x.1.text := by
  have hne : placed.map (fun x => x.1.spread x.2) ++ comma.toList ≠ [] := by
    simp [h.ne_nil]
  have hcomma : ∀ piece ∈ placed.map (fun x => x.1.spread x.2) ++ comma.toList,
      ',' ∉ piece := by
    have hblank {c : Char} (hc : isBlank c = true) : c ≠ ',' :=
      fun h => absurd hc (by rw [h]; decide)
    have hword {c : Char} (hc : isWord c = true) : c ≠ ',' :=
      fun h => absurd hc (by rw [h]; decide)
    intro piece hpiece hmem
    rcases List.mem_append.1 hpiece with hpiece | hpiece
    · obtain ⟨x, hx, rfl⟩ := List.mem_map.1 hpiece
      exact Entry.forall_mem_spread (P := (· ≠ ',')) (h.entry x hx) (fun c => hword)
        (fun gap hgap c hc => hblank ((h.gaps x hx).blank gap hgap c hc)) _ hmem rfl
    · exact hblank (h.comma piece (by simpa using hpiece) _ hmem) rfl
  have hentries : (placed.map fun x => x.1.spread x.2).map singleSpaced = placed.map
      fun x => x.1.text := by
    rw [List.map_map]
    refine List.map_congr_left fun x hx => congrArg (join [' ']) ?_
    exact Entry.fields_spread (h.entry x hx) (h.gaps x hx) (fun _ hc => hc) fun _ =>
      isBlank_of_isWord
  have hlast : (comma.toList.map singleSpaced).filter (· ≠ []) = [] := by
    refine List.filter_eq_nil_iff.2 fun piece hpiece => ?_
    obtain ⟨gap, hgap, rfl⟩ := List.mem_map.1 hpiece
    simp [singleSpaced, Text.words,
      fields_of_forall_pos (h.comma gap (by simpa using hgap)), join]
  rw [body, names_singleSpaced hne hcomma, List.map_append, List.filter_append, hentries,
    hlast, List.append_nil]
  refine List.filter_eq_self.2 fun text htext => ?_
  obtain ⟨x, hx, rfl⟩ := List.mem_map.1 htext
  simpa using (Entry.trim_text (h.entry x hx).module).2

/-- In a body there are words, blanks and commas. -/
theorem notMem_body (h : IsPlaced placed comma) {x : Char} (hword : isWord x = false)
    (hblank : isBlank x = false) (hcomma : x ≠ ',') : x ∉ body placed comma := by
  have hno {gap : Text} (hgap : ∀ c ∈ gap, isBlank c = true) : ∀ c ∈ gap, x ≠ c :=
    fun c hc hxc => absurd (hgap c hc) (by simp [← hxc, hblank])
  refine fun hmem => forall_mem_body (P := (x ≠ ·)) h.entry (fun c hc hxc => ?_) hcomma
    (fun y hy gap hgap => hno ((h.gaps y hy).blank gap hgap)) (fun gap hgap =>
      hno (h.comma gap hgap)) x hmem rfl
  exact absurd hc (by simp [← hxc, hword])

/-- The entries of a line with the blanks that are printed between them. -/
def inLine : List Entry → List (Entry × Gaps)
  | [] => []
  | first :: others => (first, .single []) :: others.map fun e => (e, .single [' '])

theorem text_line (entries : List Entry) :
    (line entries).text = body (inLine entries) none := by
  cases entries with
  | nil => rfl
  | cons first others =>
      have hcons : ", ".toList = ',' :: [' '] := rfl
      have hothers : (others.map Entry.text).map ([' '] ++ ·) =
          others.map fun e => e.spread (.single [' ']) := by
        rw [List.map_map]
        exact List.map_congr_left fun e _ => (Entry.spread_single e [' ']).symm
      rw [text, hcons, List.map_cons, join_cons_sep, hothers, body, inLine,
        List.map_cons, List.map_map, Entry.spread_single]
      simp
      rfl

theorem of_mem_inLine {x : Entry × Gaps} (h : x ∈ inLine entries) :
    x.1 ∈ entries ∧ (x.2 = .single [] ∨ x.2 = .single [' ']) := by
  cases entries with
  | nil => exact absurd h List.not_mem_nil
  | cons first others =>
      rcases List.mem_cons.1 h with rfl | h
      · exact ⟨List.mem_cons_self, .inl rfl⟩
      · obtain ⟨e, he, rfl⟩ := List.mem_map.1 h
        exact ⟨List.mem_cons_of_mem first he, .inr rfl⟩

theorem isPlaced_inLine (hne : entries ≠ []) (h : ∀ e ∈ entries, e.IsProper IsName) :
    IsPlaced (inLine entries) none := by
  refine ⟨?_, fun x hx => h _ (of_mem_inLine hx).1, fun x hx => ?_, by simp⟩
  · cases entries with
    | nil => exact absurd rfl hne
    | cons first others => exact List.cons_ne_nil _ _
  · rcases (of_mem_inLine hx).2 with hgaps | hgaps <;> rw [hgaps] <;>
      exact ⟨by decide, by decide, by decide⟩

theorem map_fst_inLine (entries : List Entry) :
    (inLine entries).map Prod.fst = entries := by
  cases entries with
  | nil => rfl
  | cons first others =>
      rw [inLine, List.map_cons, List.map_map]
      exact congrArg (first :: ·) (List.map_id others)

/-- Every list of names is a body, in parentheses or not. -/
theorem exists_body (h : clause.IsProper) (hstar : clause ≠ star) :
    ∃ opening closing placed comma, IsPlaced placed comma ∧ placed.map Prod.fst =
      clause.entries ∧
      clause.text = opening ++ body placed comma ++ closing ∧
      (∀ c ∈ opening, c = '(') ∧ ∀ c ∈ closing, c = ')' := by
  cases clause with
  | star => exact absurd rfl hstar
  | line entries =>
      obtain ⟨hne, hentries⟩ := h
      refine ⟨[], [], inLine entries, none, isPlaced_inLine hne hentries,
        map_fst_inLine entries, ?_, List.forall_mem_nil _, List.forall_mem_nil _⟩
      rw [text_line, List.nil_append, List.append_nil]
  | spread placed comma =>
      obtain ⟨hne, hplaced, hcomma⟩ := h
      exact ⟨['('], [')'], placed, comma,
        ⟨hne, fun x hx => (hplaced x hx).1, fun x hx => (hplaced x hx).2,
        hcomma⟩, rfl, rfl, by decide, by decide⟩

theorem trim_text (h : clause.IsProper) : clause.text.IsTrim ∧ clause.text ≠ [] := by
  cases clause with
  | star => exact ⟨⟨by decide, by decide⟩, by decide⟩
  | line entries => exact Entry.trim_texts h.1 fun e he => (h.2 e he).module
  | spread placed comma =>
      have hopen : Text.IsTrim ['('] := ⟨by decide, by decide⟩
      have hclose : Text.IsTrim [')'] := ⟨by decide, by decide⟩
      exact ⟨hopen.between (body placed comma) hclose (by decide) (by decide),
        List.cons_ne_nil _ _⟩

/-- Parentheses and blanks around a body do not matter for the names that are read. -/
theorem importedNames_of_body {text : Text} (hplaced : IsPlaced placed comma)
    (hbare : trimWhile (fun c => c = '(' || c = ')') (strip (dropComments text)) =
      body placed comma) :
    importedNames text = placed.map fun x => (x.1.name, x.1.renamed) := by
  have hsplit : (placed.map fun x => x.1.text).map splitAlias = placed.map fun x =>
      (x.1.name, x.1.renamed) := by
    rw [List.map_map]
    exact List.map_congr_left fun x hx =>
      Entry.splitAlias_text (hplaced.entry x hx).module
  rw [importedNames, hbare]
  show (names (singleSpaced (body placed comma))).map splitAlias = _
  rw [names_body hplaced, hsplit]

theorem notParen_body (hplaced : IsPlaced placed comma) :
    ∀ c ∈ body placed comma, (c = '(' || c = ')') = false := by
  have hopen :=
    notMem_body hplaced (by decide : isWord '(' = false) (by decide) (by decide)
  have hclose :=
    notMem_body hplaced (by decide : isWord ')' = false) (by decide) (by decide)
  intro c hc
  exact Bool.or_eq_false_iff.2 ⟨decide_eq_false fun hx => hopen (hx ▸ hc),
    decide_eq_false fun hx => hclose (hx ▸ hc)⟩

theorem trimWhile_body {opening closing : Text} (hplaced : IsPlaced placed comma)
    (hopen : ∀ c ∈ opening, c = '(') (hclose : ∀ c ∈ closing, c = ')') :
    trimWhile (fun c => c = '(' || c = ')') (opening ++ body placed comma ++ closing) =
      body placed comma := by
  have hparens := notParen_body hplaced
  exact trimWhile_pad (fun c hc => by simp [hopen c hc]) (fun c hc => by
    simp [hclose c hc])
    (fun c hc => hparens c (List.mem_of_head? hc)) (fun c hc =>
      hparens c (List.mem_of_getLast? hc))

/-- The names that are written are read back, whatever the layout. -/
theorem importedNames_text (h : clause.IsProper) (hstar : clause ≠ star) :
    importedNames clause.text = clause.entries.map fun e => (e.name, e.renamed) := by
  obtain ⟨opening, closing, placed, comma, hplaced, hentries, htext, hopen, hclose⟩ :=
    exists_body h hstar
  have hsign : '#' ∉ clause.text := by
    have hbody :=
      notMem_body hplaced (by decide : isWord '#' = false) (by decide) (by decide)
    rw [htext]
    simp only [List.mem_append, not_or]
    exact ⟨⟨fun hmem => absurd (hopen _ hmem) (by decide), hbody⟩,
      fun hmem => absurd (hclose _ hmem) (by decide)⟩
  rw [importedNames_of_body hplaced, ← hentries, List.map_map]
  · rfl
  · rw [dropComments_of_notMem hsign, strip_eq (trim_text h).1, htext,
      trimWhile_body hplaced hopen hclose]

/-- No word of a clause is the one that statements are found by. -/
theorem notMem_fields (h : clause.IsProper) :
    "import".toList ∉ fields (fun c => !isWord c) clause.text := by
  have hblank (c : Char) (hc : isBlank c = true) : (!isWord c) = true := by
    cases hw : isWord c with
    | false => rfl
    | true => exact absurd hc (by simp [isBlank_of_isWord hw])
  by_cases hstar : clause = star
  · rw [hstar]
    decide
  obtain ⟨opening, closing, placed, comma, hplaced, -, htext, hopen, hclose⟩ :=
    exists_body h hstar
  have hopen : ∀ c ∈ opening, (!isWord c) = true := fun c hc => by rw [hopen c hc]; decide
  have hclose : ∀ c ∈ closing, (!isWord c) = true := fun c hc => by
    rw [hclose c hc]; decide
  rw [htext, fields_append_pad hclose, fields_pad hopen, body, fields_join (by decide)]
  intro hmem
  obtain ⟨piece, hpiece, hmem⟩ := List.mem_flatMap.1 hmem
  rcases List.mem_append.1 hpiece with hpiece | hpiece
  · obtain ⟨x, hx, rfl⟩ := List.mem_map.1 hpiece
    have hentry := hplaced.entry x hx
    rw [Entry.fields_spread hentry (hplaced.gaps x hx) hblank
      (fun c hc => by rw [hc]; rfl)] at hmem
    exact hentry.notMem_words hmem
  · have hgap := hplaced.comma piece (by simpa using hpiece)
    rw [fields_of_forall_pos fun c hc => hblank c (hgap c hc)] at hmem
    exact absurd hmem List.not_mem_nil

end Clause

/-! ## What is found -/

section Found

variable (w : Workspace) (root file package : Text) (line : Nat)

/-- The file of an entry that is a module of its own. -/
def Entry.submodule? (e : Entry) : Option Text :=
  Resolve.pythonSubmodule? w root file package e.name

/-- Where an entry leads: to its own file, or else to the package. -/
def Entry.target (e : Entry) : Text :=
  (e.submodule? w root file package).getD (Resolve.python w root file package)

/-- The imports that a clause stands for, in the order in which it is written. -/
def Clause.imports : Clause → List Import
  | star => [⟨['*'], Resolve.python w root file package, .whole, package, line, none⟩]
  | clause => clause.entries.map fun e =>
      ⟨e.name, e.target w root file package, .named, package, line, e.renamed⟩

/-- The files that a clause leads to: those of its entries, and the package where an entry
needs it. -/
def Clause.targets : Clause → List Text
  | star => [Resolve.python w root file package]
  | clause =>
    clause.entries.filterMap (Entry.submodule? w root file package) ++
      if clause.entries.any fun e => (e.submodule? w root file package).isNone then
        [Resolve.python w root file package]
      else []

/-- The imports of whole modules. -/
def moduleImports (entries : List Entry) : List Import :=
  entries.map fun e =>
    ⟨e.name, Resolve.python w root file e.name, .whole, e.name, line, e.renamed⟩

variable {w root file package line} {clause : Clause} {e : Entry} {entries : List Entry}

theorem nameFindings_entry (h : e.IsProper IsName) :
    nameFindings w root file package (Resolve.python w root file package) line
      (e.name, e.renamed) =
      ((e.submodule? w root file package).toList.map .dependsOn ++
        [.imports ⟨e.name, e.target w root file package, .named, package,
          line, e.renamed⟩],
        (e.submodule? w root file package).isNone) := by
  have hstar : e.name ≠ ['*'] :=
    fun hname => absurd (h.name.word '*' (by simp [hname])) (by decide)
  have hidentifier : ¬ (!isIdentifier e.name) = true := by simp [h.name.identifier]
  unfold nameFindings Entry.target Entry.submodule?
  simp only [if_neg hstar, if_neg hidentifier]
  cases Resolve.pythonSubmodule? w root file package e.name <;> rfl

theorem fromFindings_star : fromFindings w root file package ['*'] line =
    [.imports ⟨['*'], Resolve.python w root file package, .whole, package, line, none⟩,
      .dependsOn (Resolve.python w root file package)] := by
  have hnames : importedNames ['*'] = [(['*'], none)] := by decide
  rw [fromFindings, hnames]
  rfl

/-- The passes over definitions find names to export, and nothing else. -/
theorem exists_findings_eq (w : Workspace) (root file content : Text) :
    ∃ exported : List Text,
    findings w root file content =
      ((fromImport.findAll content).flatMap fun m =>
        fromFindings w root file (m.part .source) (m.part .clause)
          (lineAt content m.start)) ++
      ((plainImport.findAll content).flatMap fun m =>
        plainFindings w root file (m.part .clause) (lineAt content m.start)) ++
      exported.map .exports := by
  refine ⟨(topLevelDefinition.findAll content).map (·.part .name) ++
    (exportList.findAll content).flatMap fun m =>
    (quotedName.findAll (m.part .clause)).map (·.part .name), ?_⟩
  unfold findings
  simp only [List.map_append, List.map_map, List.map_flatMap, List.append_assoc]
  rfl

section Names

variable {text : Text}
  (hnames : importedNames text = entries.map fun e => (e.name, e.renamed))
  (hentries : ∀ e ∈ entries, e.IsProper IsName)
include hnames hentries

/-- What a list of names finds, in the order of discovery. -/
theorem fromFindings_of_names : fromFindings w root file package text line =
    (entries.flatMap fun e => (e.submodule? w root file package).toList.map .dependsOn ++
      [.imports ⟨e.name, e.target w root file package, .named, package,
        line, e.renamed⟩]) ++
    if entries.any fun e => (e.submodule? w root file package).isNone then
      [.dependsOn (Resolve.python w root file package)]
    else [] := by
  have hfound : (entries.map fun e => (e.name, e.renamed)).map
      (nameFindings w root file package (Resolve.python w root file package) line) =
      entries.map fun e => ((e.submodule? w root file package).toList.map .dependsOn ++
        [.imports ⟨e.name, e.target w root file package, .named, package,
          line, e.renamed⟩],
        (e.submodule? w root file package).isNone) := by
    rw [List.map_map]
    exact List.map_congr_left fun e he => nameFindings_entry (hentries e he)
  unfold fromFindings
  simp only [hnames, hfound, List.flatMap_map, List.any_map]
  rfl

theorem imports_of_names :
    (fromFindings w root file package text line).filterMap Finding.import? =
    (Clause.line entries).imports w root file package line := by
  have hpackage (cond : Bool) (target : Text) :
      (if cond = true then [Finding.dependsOn target] else []).filterMap
        Finding.import? = [] := by cases cond <;> rfl
  rw [fromFindings_of_names hnames hentries, List.filterMap_append,
    List.filterMap_flatMap, hpackage, List.append_nil, Clause.imports, Clause.entries,
    List.map_eq_flatMap]
  · refine congrArg (List.flatMap · entries) (funext fun e => ?_)
    cases e.submodule? w root file package <;> rfl
  · exact nofun

theorem targets_of_names :
    (fromFindings w root file package text line).filterMap Finding.target? =
    (Clause.line entries).targets w root file package := by
  have hpackage (cond : Bool) (target : Text) :
      (if cond = true then [Finding.dependsOn target] else []).filterMap
        Finding.target? = if cond = true then [target] else [] := by cases cond <;> rfl
  rw [fromFindings_of_names hnames hentries, List.filterMap_append,
    List.filterMap_flatMap, hpackage, Clause.targets, Clause.entries,
    List.filterMap_eq_flatMap_toList]
  · refine congrArg (· ++ _) (congrArg (List.flatMap · entries) (funext fun e => ?_))
    cases e.submodule? w root file package <;> rfl
  · exact nofun

end Names

theorem Clause.entries_proper (h : clause.IsProper) : ∀ e ∈ clause.entries,
    e.IsProper IsName := by
  cases clause with
  | star => exact List.forall_mem_nil _
  | line entries => exact h.2
  | spread entries comma =>
      intro e he
      obtain ⟨x, hx, rfl⟩ := List.mem_map.1 he
      exact (h.2.1 x hx).1

theorem imports_fromFindings (h : clause.IsProper) :
    (fromFindings w root file package clause.text line).filterMap Finding.import? =
      clause.imports w root file package line := by
  by_cases hstar : clause = .star
  · rw [hstar]
    exact congrArg (List.filterMap Finding.import?) fromFindings_star
  · rw [imports_of_names (Clause.importedNames_text h hstar) (Clause.entries_proper h)]
    cases clause with
    | star => exact absurd rfl hstar
    | line entries | spread entries comma => rfl

theorem targets_fromFindings (h : clause.IsProper) :
    (fromFindings w root file package clause.text line).filterMap Finding.target? =
      clause.targets w root file package := by
  by_cases hstar : clause = .star
  · rw [hstar]
    exact congrArg (List.filterMap Finding.target?) fromFindings_star
  · rw [targets_of_names (Clause.importedNames_text h hstar) (Clause.entries_proper h)]
    cases clause with
    | star => exact absurd rfl hstar
    | line entries | spread entries comma => rfl

/-- What an import of whole modules finds. -/
theorem plainFindings_text (h : ∀ e ∈ entries, e.IsProper IsModule) :
    plainFindings w root file (join ", ".toList (entries.map Entry.text)) line =
      (moduleImports w root file line entries).flatMap fun i =>
        [.imports i, .dependsOn i.target] := by
  have hnames : names (join ", ".toList (entries.map Entry.text)) =
      entries.map Entry.text := by
    refine names_join_space (fun piece hpiece => ?_) fun piece hpiece => ?_
    · obtain ⟨e, he, rfl⟩ := List.mem_map.1 hpiece
      refine fun hmem =>
        Entry.forall_mem_text (P := (· ≠ ',')) (h e he) (fun c hc => ?_)
          (by decide) _ hmem rfl
      rintro rfl
      exact absurd hc (by decide)
    · obtain ⟨e, he, rfl⟩ := List.mem_map.1 hpiece
      exact Entry.trim_text (h e he)
  unfold plainFindings
  rw [hnames, List.map_map, List.flatMap_map, moduleImports, List.flatMap_map]
  refine List.flatMap_congr fun e he => ?_
  simp only [Function.comp_apply, Entry.splitAlias_text (h e he)]
  exact if_pos (h e he).name.identifiers

end Found

end ImpactGraph.Rules.Python
