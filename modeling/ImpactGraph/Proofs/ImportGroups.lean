import ImpactGraph.Proofs.RecordedFindings
import ImpactGraph.Proofs.TextBlocks
import ImpactGraph.Proofs.TextParts
import ImpactGraph.Rules.Go

/-!
# Lines of grouped imports

A group lists imports line by line, each with a comment if there is something to say. Two
passes look at such lines, and both decide by the first character that no alias and no
blank could be: a quote makes a line an import, and a parenthesis begins a group. A pass
finds nothing on a line whose mark is another, nor on one that lacks the word the pass
begins with.

So the pass for imports that stand alone leaves the lines of a group to the other pass,
with one exception: an import that is renamed to the very word begins like one that stands
alone.
-/

namespace ImpactGraph

namespace Rules.Go

open Text Pattern

/-! ## The grammar -/

/-- An alias with the blanks behind it. -/
def aliasText (renamed : Option Text) (gap : Text) : Text :=
  (renamed.map (· ++ gap)).getD []

/-- An import on a line of a group: a path in quotes, perhaps with an alias before it and
a comment behind. -/
structure Spec where
  indent : Text := ['\t']
  renamed : Option Text := none
  gap : Text := [' ']
  path : Text
  pad : Text := []
  comment : Option Text := none
  deriving DecidableEq, Repr

namespace Spec

/-- What stands before the path. -/
def lead (s : Spec) : Text := s.indent ++ aliasText s.renamed s.gap

/-- The comment as it is written. -/
def remark (s : Spec) : Text := (s.comment.map ("//".toList ++ ·)).getD []

def text (s : Spec) : Text := s.lead ++ '"' :: (s.path ++ '"' :: (s.pad ++ s.remark))

structure IsProper (s : Spec) : Prop where
  indent : ∀ c ∈ s.indent, isInlineBlank c = true
  renamed : ∀ name ∈ s.renamed, name ≠ [] ∧ ∀ c ∈ name, isDottedChar c = true
  gap : s.gap ≠ [] ∧ ∀ c ∈ s.gap, isInlineBlank c = true
  path : s.path ≠ [] ∧ ∀ c ∈ s.path, c ≠ '"' ∧ c ≠ '\n'
  pad : ∀ c ∈ s.pad, isInlineBlank c = true
  comment : ∀ t ∈ s.comment, '\n' ∉ t

instance (s : Spec) : Decidable s.IsProper :=
  decidable_of_iff ((∀ c ∈ s.indent, isInlineBlank c = true) ∧
      (∀ name ∈ s.renamed, name ≠ [] ∧ ∀ c ∈ name, isDottedChar c = true) ∧
      (s.gap ≠ [] ∧ ∀ c ∈ s.gap, isInlineBlank c = true) ∧
        (s.path ≠ [] ∧ ∀ c ∈ s.path, c ≠ '"' ∧ c ≠ '\n') ∧
      (∀ c ∈ s.pad, isInlineBlank c = true) ∧ ∀ t ∈ s.comment, '\n' ∉ t)
    ⟨fun ⟨a, b, c, d, e, f⟩ => ⟨a, b, c, d, e, f⟩, fun ⟨a, b, c, d, e, f⟩ =>
      ⟨a, b, c, d, e, f⟩⟩

/-- An import renamed to the word that imports begin with. -/
def EchoesWord (s : Spec) : Prop := s.renamed = some "import".toList

instance (s : Spec) : Decidable s.EchoesWord :=
  inferInstanceAs (Decidable (s.renamed = _))

end Spec

/-- A line begins with the word for imports. -/
def Begins (line : Text) : Prop := "import".toList <+: line.dropWhile isInlineBlank

instance (line : Text) : Decidable (Begins line) := inferInstanceAs (Decidable (_ <+: _))

/-- A line that is no import: whatever it says, the word is not at its beginning. -/
def IsOther (line : Text) : Prop := '\n' ∉ line ∧ ¬ Begins line

instance (line : Text) : Decidable (IsOther line) := inferInstanceAs (Decidable (_ ∧ _))

/-- The first line of a group. -/
def header (gap : Text) : Text := "import".toList ++ gap ++ "(".toList

theorem header_eq (gap : Text) : header gap = "import".toList ++ gap ++ "(".toList := rfl

/-- The lines of a file with one group of imports. -/
def groupLines (before : List Text) (gap : Text) (specs : List Spec) (closing : Text)
    (after : List Text) : List Text :=
  before ++ header gap :: (specs.map Spec.text ++ footer closing :: after)

/-! ## Before the first mark -/

/-- What may stand before the mark that decides what a line is. -/
def isLead (c : Char) : Bool := isDottedChar c || isInlineBlank c

/-- The first character that is no letter of a lead is this one. -/
def Marked (mark : Char) (t : Text) : Prop := ∃ lead rest, t = lead ++ mark :: rest ∧
    ∀ c ∈ lead, isLead c = true

section Marks

variable {x y : Char} {t tail lead gap : Text} {s : Spec}

theorem Marked.eq (hx : isLead x = false) (hy : isLead y = false) (h : Marked x t)
    (h' : Marked y t) : x = y := by
  obtain ⟨a, s, rfl, ha⟩ := h
  obtain ⟨b, u, heq, hb⟩ := h'
  have hno {a : Text} (ha : ∀ c ∈ a, isLead c = true) : ∀ c ∈ a, (!isLead c) = false :=
    fun c hc => by rw [ha c hc]; rfl
  exact (eq_of_first (p := fun c => !isLead c) (hno ha) (hno hb) (by simp [hx])
    (by simp [hy]) heq).2.1

theorem Marked.append (h : Marked x t) (tail : Text) : Marked x (t ++ tail) := by
  obtain ⟨lead, rest, rfl, hlead⟩ := h
  exact ⟨lead, rest ++ tail, by simp, hlead⟩

theorem isLead_of_isInlineBlank (h : isInlineBlank x = true) : isLead x = true := by
  rw [isLead, h, Bool.or_true]

theorem isLead_of_isDottedChar (h : isDottedChar x = true) : isLead x = true := by
  rw [isLead, h, Bool.true_or]

theorem Spec.IsProper.forall_lead (h : s.IsProper) : ∀ c ∈ s.lead, isLead c = true := by
  refine List.forall_mem_append.2 ⟨fun c hc =>
    isLead_of_isInlineBlank (h.indent c hc), ?_⟩
  cases hrenamed : s.renamed with
  | none => exact List.forall_mem_nil _
  | some name =>
      refine List.forall_mem_append.2 ⟨fun c hc => ?_, fun c hc =>
        isLead_of_isInlineBlank (h.gap.2 c hc)⟩
      exact isLead_of_isDottedChar ((h.renamed name hrenamed).2 c hc)

theorem Spec.IsProper.marked (h : s.IsProper) : Marked '"' s.text :=
  ⟨s.lead, _, rfl, h.forall_lead⟩

theorem not_marked_of_endsBlock (h : EndsBlock t) (hx : x ≠ '\n') : ¬ Marked x t := by
  rintro ⟨lead, rest, rfl, hlead⟩
  cases lead with
  | nil => exact hx (h x rfl)
  | cons y lead =>
      obtain rfl : y = '\n' := h y rfl
      exact absurd (hlead '\n' List.mem_cons_self) (by decide)

theorem marked_header (hgap : ∀ c ∈ gap, isInlineBlank c = true) :
    Marked '(' (header gap) := by
  refine ⟨"import".toList ++ gap, [], rfl,
    List.forall_mem_append.2 ⟨by decide, fun c hc => ?_⟩⟩
  exact isLead_of_isInlineBlank (hgap c hc)

theorem marked_footer (hclosing : ∀ c ∈ gap, isInlineBlank c = true) :
    Marked ')' (footer gap) :=
  ⟨gap, [], rfl, fun c hc => isLead_of_isInlineBlank (hclosing c hc)⟩

end Marks

/-! ## What the patterns take -/

section Takes

variable {x : Char} {t tail : Text} {c d : Cursor} {s : Spec}

theorem begins_append {g : Text} (hg : ∀ c ∈ g, isInlineBlank c = true) (tail : Text) :
    Begins (g ++ ("import".toList ++ tail)) := by
  rw [Begins, dropWhile_pad hg]
  · exact List.prefix_append _ _
  · rintro y ⟨⟩
    decide

theorem Begins.exists_eq (h : Begins t) :
    ∃ g rest, t = g ++ ("import".toList ++ rest) ∧ ∀ c ∈ g, isInlineBlank c = true := by
  obtain ⟨rest, hrest⟩ := h
  refine ⟨t.takeWhile isInlineBlank, rest, ?_, fun c hc =>
    List.all_eq_true.1 List.all_takeWhile c hc⟩
  rw [hrest, List.takeWhile_append_dropWhile]

/-- A line begins as it does with what follows. -/
theorem Begins.of_append (h : Begins (t ++ tail)) (htail : EndsBlock tail) :
    Begins t := by
  obtain ⟨g, rest, heq, hg⟩ := h.exists_eq
  have hclean : '\n' ∉ g ++ "import".toList := by
    rw [List.mem_append, not_or]
    exact ⟨fun hmem => absurd (hg _ hmem) (by decide), by decide⟩
  rw [← List.append_assoc] at heq
  rcases List.append_eq_append_iff.1 heq with ⟨r, hr, htail'⟩ | ⟨r, rfl, -⟩
  · cases r with
    | nil =>
        have hbegins := begins_append hg []
        rw [← List.append_assoc, hr] at hbegins
        simpa using hbegins
    | cons y r =>
        obtain rfl : y = '\n' := htail y (by rw [htail']; rfl)
        exact absurd (by rw [hr]; simp) hclean
  · rw [List.append_assoc]
    exact begins_append hg r

theorem takes_packagePath (h : packagePath.Takes t) :
    ∃ lead path, t = lead ++ '"' :: (path ++ ['"']) ∧
    (∀ c ∈ lead, isLead c = true) ∧ ∀ c ∈ path, c ≠ '"' ∧ c ≠ '\n' := by
  obtain ⟨_, _, rfl, ⟨_, path, rfl, ⟨lead, _, rfl, hlead, rfl⟩, hpath⟩, rfl⟩ := h
  refine ⟨lead, path, by simp, ?_, by simpa using (takes_many1.1 hpath).2⟩
  rcases hlead with ⟨name, gap, rfl, hname, hgap⟩ | rfl
  · exact List.forall_mem_append.2 ⟨fun c hc =>
      isLead_of_isDottedChar ((takes_many1.1 hname).2 c hc), fun c hc =>
        isLead_of_isInlineBlank ((takes_many1.1 hgap).2 c hc)⟩
  · exact List.forall_mem_nil _

/-- How a line has to begin for an import that stands alone. -/
def BeginsSingle (t : Text) : Prop :=
  Marked '"' t ∧ ∃ g b rest, t = g ++ ("import".toList ++ b :: rest) ∧
    (∀ c ∈ g, isInlineBlank c = true) ∧ isInlineBlank b = true

/-- How a line has to begin for an import of a group. -/
def BeginsEntry (t : Text) : Prop :=
  ∃ lead path rest, t = lead ++ '"' :: (path ++ '"' :: rest) ∧
    (∀ c ∈ lead, isLead c = true) ∧
    ∀ c ∈ path, c ≠ '"' ∧ c ≠ '\n'

theorem BeginsEntry.marked (h : BeginsEntry t) : Marked '"' t := by
  obtain ⟨lead, path, rest, rfl, hlead, -⟩ := h
  exact ⟨lead, _, rfl, hlead⟩

/-- How a line has to begin for a group of imports. -/
def BeginsGroup (t : Text) : Prop := Marked '(' t ∧ Begins t

theorem beginsSingle_of_mem_ends (h : d ∈ singleImport.ends c) : BeginsSingle c.rest := by
  obtain ⟨_, ⟨hrest, -⟩, _, _, rfl,
      ⟨_, gap, rfl, ⟨_, _, rfl, ⟨_, g, rfl, rfl, hg⟩, rfl⟩, hgap⟩, hpath⟩ :=
    takes_of_mem_ends h
  obtain ⟨lead, path, rfl, hlead, -⟩ := takes_packagePath hpath
  obtain ⟨hne, hgap⟩ := takes_many1.1 hgap
  obtain ⟨b, gap, rfl⟩ := List.exists_cons_of_ne_nil hne
  constructor
  · refine ⟨g ++ ("import".toList ++ ((b :: gap) ++ lead)),
      path ++ ['"'] ++ d.rest, ?_, ?_⟩
    · rw [hrest]
      simp
    · have hword : ∀ x ∈ "import".toList, isLead x = true := by decide
      simp only [List.forall_mem_append]
      exact ⟨fun x hx => isLead_of_isInlineBlank (hg x hx), hword,
        fun x hx => isLead_of_isInlineBlank (hgap x hx), hlead⟩
  · refine ⟨g, b, gap ++ (lead ++ '"' :: (path ++ ['"'])) ++ d.rest, ?_, hg,
      hgap b List.mem_cons_self⟩
    rw [hrest]
    simp

theorem beginsEntry_of_mem_ends (h : d ∈ groupEntry.ends c) : BeginsEntry c.rest := by
  obtain ⟨_, ⟨hrest, -⟩, _, _, rfl, ⟨_, g, rfl, rfl, hg⟩, hpath⟩ := takes_of_mem_ends h
  obtain ⟨lead, path, rfl, hlead, hplain⟩ := takes_packagePath hpath
  refine ⟨g ++ lead, path, d.rest, ?_, ?_, hplain⟩
  · rw [hrest]
    simp
  · exact List.forall_mem_append.2 ⟨fun x hx => isLead_of_isInlineBlank (hg x hx), hlead⟩

theorem beginsGroup_of_mem_ends (h : d ∈ importGroup.ends c) : BeginsGroup c.rest := by
  obtain ⟨_, ⟨hrest, -⟩, _, _, rfl,
    ⟨_, gap, rfl, ⟨_, _, rfl, ⟨_, g, rfl, rfl, hg⟩, rfl⟩, hgap⟩,
    _, _, rfl, ⟨_, clause, rfl, rfl, -⟩, rfl⟩ := takes_of_mem_ends h
  constructor
  · refine ⟨g ++ ("import".toList ++ gap), clause ++ (')' :: d.rest), ?_, ?_⟩
    · rw [hrest]
      simp
    · have hword : ∀ x ∈ "import".toList, isLead x = true := by decide
      simp only [List.forall_mem_append]
      exact ⟨fun x hx => isLead_of_isInlineBlank (hg x hx), hword,
        fun x hx => isLead_of_isInlineBlank (hgap x hx)⟩
  · have hbegins :=
      begins_append hg (gap ++ ("(".toList ++ clause ++ ")".toList) ++ d.rest)
    rw [hrest]
    simpa using hbegins

theorem startsLine_singleImport : StartsLine singleImport := startsLine_of_front rfl

theorem startsLine_groupEntry : StartsLine groupEntry := startsLine_of_front rfl

theorem startsLine_importGroup : StartsLine importGroup := startsLine_of_front rfl

/-- Only a line renamed to the word begins like an import that stands alone. -/
theorem Spec.IsProper.echoesWord (h : s.IsProper)
    (hbegins : BeginsSingle (s.text ++ tail)) : s.EchoesWord := by
  obtain ⟨-, g, b, rest, heq, hg, hb⟩ := hbegins
  have hword : (g ++ ("import".toList ++ b :: rest)).dropWhile isInlineBlank =
      "import".toList ++ b :: rest :=
    dropWhile_pad hg (by rintro y ⟨⟩; decide)
  rw [← heq, Spec.text, Spec.lead, List.append_assoc, List.append_assoc] at hword
  cases hrenamed : s.renamed with
  | none =>
      rw [dropWhile_pad h.indent (by rw [hrenamed]; rintro y ⟨⟩; decide), hrenamed]
        at hword
      exact absurd (List.cons.inj hword).1 (by decide)
  | some name =>
      obtain ⟨hne, hname⟩ := h.renamed name hrenamed
      obtain ⟨z, gap, hgap⟩ := List.exists_cons_of_ne_nil h.gap.1
      have hz : isDottedChar z = false :=
        isDottedChar_of_isInlineBlank (h.gap.2 z (by rw [hgap]; simp))
      have hno {a : Text} (ha : ∀ c ∈ a, isDottedChar c = true) : ∀ c ∈ a,
          (!isDottedChar c) = false :=
        fun c hc => by rw [ha c hc]; rfl
      have hblank : ∀ y ∈ (name ++ z :: (gap ++
          ('"' :: (s.path ++ '"' :: (s.pad ++ s.remark)) ++ tail))).head?,
            isInlineBlank y = false := by
        obtain ⟨y, more, rfl⟩ := List.exists_cons_of_ne_nil hne
        rintro _ ⟨⟩
        exact Bool.eq_false_iff.2 fun hblank =>
          absurd (hname y List.mem_cons_self)
            (by simp [isDottedChar_of_isInlineBlank hblank])
      have hparts : aliasText (some name) s.gap = name ++ z :: gap := by rw [hgap]; rfl
      rw [hrenamed, hparts, List.append_assoc, List.cons_append,
        dropWhile_pad h.indent hblank] at hword
      obtain ⟨rfl, -⟩ := eq_of_first (hno hname) (hno (by decide)) (by simp [hz])
        (by simp [isDottedChar_of_isInlineBlank hb]) hword
      exact hrenamed

end Takes

/-! ## What is read -/

section Reads

variable {renamed : Option Text} {gap path clause more tail : Text}
  {c : Cursor} {s : Spec}

/-- The way through an alias, and what it keeps. -/
def aliasPart : Pattern := optional (keep .renamed (many1 isDottedChar) ++ inlineSpace)

theorem first_packagePath : packagePath.first some = aliasPart.first ((word "\"").first
    ((keep .source (many1 fun c => !(c = '"' || c = '\n'))).first
      ((word "\"").first some))) := by
  simp only [packagePath, aliasPart, first_append]

theorem first_aliasPart_of_quote {next : Cursor → Option Cursor} {d : Cursor}
    (hrest : c.rest = '"' :: more) (hd : next c = some d) :
    aliasPart.first next c = some d := by
  refine first_optional_right (first_eq_none fun e he => ?_) hd
  obtain ⟨_, ⟨htaken, -⟩, name, _, rfl, hname, -⟩ := takes_of_mem_ends he
  obtain ⟨hne, hname⟩ := takes_many1.1 hname
  obtain ⟨x, name, rfl⟩ := List.exists_cons_of_ne_nil hne
  obtain rfl : '"' = x := (List.cons.inj (hrest.symm.trans htaken)).1
  exact absurd (hname '"' List.mem_cons_self) (by decide)

theorem first_aliasPart_of_name {next : Cursor → Option Cursor} {d : Cursor} {name : Text}
    (hname : name ≠ [] ∧ ∀ x ∈ name, isDottedChar x = true)
    (hgap : gap ≠ [] ∧ ∀ x ∈ gap, isInlineBlank x = true)
    (hrest : c.rest = name ++ (gap ++ '"' :: more))
    (hd :
      next (((c.past name (gap ++ '"' :: more)).keeping .renamed c).past gap
        ('"' :: more)) = some d) : aliasPart.first next c = some d := by
  obtain ⟨hne, hname⟩ := hname
  obtain ⟨hgap, hblank⟩ := hgap
  obtain ⟨x, name, rfl⟩ := List.exists_cons_of_ne_nil hne
  obtain ⟨y, gap, rfl⟩ := List.exists_cons_of_ne_nil hgap
  obtain ⟨hx, hname⟩ := List.forall_mem_cons.1 hname
  obtain ⟨hy, hblank⟩ := List.forall_mem_cons.1 hblank
  apply first_optional
  rw [first_append, first_keep]
  refine first_many1 hrest hx hname ?_
    (first_many1 rfl hy hblank (by rintro _ ⟨⟩; decide) hd)
  rintro _ ⟨⟩
  exact isDottedChar_of_isInlineBlank hy

/-- The alias is kept where there is one, and the path is read behind it. -/
theorem exists_alias
    (hrenamed : ∀ name ∈ renamed, name ≠ [] ∧ ∀ x ∈ name, isDottedChar x = true)
    (hgap : gap ≠ [] ∧ ∀ x ∈ gap, isInlineBlank x = true) (hkept : c.kept = [])
    (hrest : c.rest = aliasText renamed gap ++ '"' :: more) :
    ∃ e, (∀ (next : Cursor → Option Cursor) d, next e = some d →
      aliasPart.first next c = some d) ∧
      c.Spans e (aliasText renamed gap) ∧ e.rest = '"' :: more ∧
      (e.kept.lookup .renamed).map (·.text) = renamed ∧ e.kept.lookup .source = none := by
  cases renamed with
  | none =>
      refine ⟨c, fun _ _ hd => first_aliasPart_of_quote hrest hd, .refl c, hrest, ?_, ?_⟩
      · rw [hkept]
        rfl
      · rw [hkept]
        rfl
  | some name =>
      have hrest : c.rest = name ++ (gap ++ '"' :: more) := by
        rw [hrest]
        simp [aliasText]
      refine ⟨_, fun _ _ hd => first_aliasPart_of_name (hrenamed name rfl) hgap hrest hd,
        ⟨?_, ?_⟩, rfl, ?_, ?_⟩
      · rw [hrest]
        simp [aliasText]
      · simp [aliasText]
        omega
      · show some (Capture.text _) = _
        rw [text_capture (Cursor.spans_past hrest)]
      · show List.lookup .source ((Slot.renamed, _) :: c.kept) = none
        rw [hkept]
        rfl

/-- A path is read with its alias, and the place is kept where it starts. -/
theorem exists_first_packagePath
    (hrenamed : ∀ name ∈ renamed, name ≠ [] ∧ ∀ x ∈ name, isDottedChar x = true)
    (hgap : gap ≠ [] ∧ ∀ x ∈ gap, isInlineBlank x = true)
    (hpath : path ≠ [] ∧ ∀ x ∈ path, x ≠ '"' ∧ x ≠ '\n') (hkept : c.kept = [])
    (hrest : c.rest = aliasText renamed gap ++ '"' :: (path ++ '"' :: more)) :
    ∃ d, packagePath.first some c = some d ∧
      c.Spans d (aliasText renamed gap ++ '"' :: (path ++ ['"'])) ∧
      ∀ b : Cursor, (b.matchTo d).part? .renamed = renamed ∧
        (b.matchTo d).part .source = path ∧
        (b.matchTo d).startOf .source =
          c.offset + (aliasText renamed gap).length + 1 := by
  obtain ⟨e, halias, hspan, hrestAt, hlookup, hnone⟩ :=
    exists_alias hrenamed hgap hkept hrest
  obtain ⟨hne, hplain⟩ := hpath
  obtain ⟨x, path, rfl⟩ := List.exists_cons_of_ne_nil hne
  have htest : ∀ y ∈ x :: path, (!(y = '"' || y = '\n')) = true := by simpa using hplain
  obtain ⟨hx, htest⟩ := List.forall_mem_cons.1 htest
  let f := e.past ['"'] (x :: path ++ '"' :: more)
  refine ⟨((f.past (x :: path) ('"' :: more)).keeping .source f).past ['"'] more, ?_, ?_,
    fun b => ⟨?_, ?_, ?_⟩⟩
  · rw [first_packagePath]
    apply halias
    apply first_word hrestAt
    rw [first_keep]
    exact first_many1 Cursor.past_rest hx htest (by rintro _ ⟨⟩; rfl) (first_word rfl rfl)
  · refine hspan.trans ⟨?_, ?_⟩
    · rw [hrestAt]
      simp
    · simp [f]
      omega
  · exact hlookup
  · exact part_of_lookup rfl (Cursor.spans_past rfl)
  · show e.offset + 1 = _
    rw [hspan.2]

/-- The text of an import up to the end of its path. -/
def Spec.read (s : Spec) : Text := s.lead ++ '"' :: (s.path ++ ['"'])

theorem Spec.text_eq (s : Spec) : s.text = s.read ++ (s.pad ++ s.remark) := by
  simp [text, read]

theorem Spec.IsProper.head_alias (h : s.IsProper) :
    ∀ x ∈ (aliasText s.renamed s.gap ++ '"' :: more).head?, isInlineBlank x = false := by
  cases hrenamed : s.renamed with
  | none =>
      rintro _ ⟨⟩
      decide
  | some name =>
      obtain ⟨hne, hname⟩ := h.renamed name hrenamed
      obtain ⟨y, name, rfl⟩ := List.exists_cons_of_ne_nil hne
      rintro _ ⟨⟩
      exact Bool.eq_false_iff.2 fun hblank =>
        absurd (hname y List.mem_cons_self)
          (by simp [isDottedChar_of_isInlineBlank hblank])

/-- In a group every import is read with its alias. -/
theorem exists_first_groupEntry (h : s.IsProper) (hbefore : ∀ x ∈ c.before, x = '\n')
    (hkept : c.kept = []) (hrest : c.rest = s.text ++ tail) :
    ∃ d, groupEntry.first some c = some d ∧ c.Spans d s.read ∧
      ∀ b : Cursor, (b.matchTo d).part? .renamed = s.renamed ∧
        (b.matchTo d).part .source = s.path ∧
        (b.matchTo d).startOf .source = c.offset + (s.lead.length + 1) := by
  have hrest : c.rest = s.indent ++ (aliasText s.renamed s.gap ++ '"' :: (s.path ++ '"' ::
      (s.pad ++ s.remark ++ tail))) := by
    rw [hrest]
    simp [Spec.text, Spec.lead]
  obtain ⟨d, hd, hspan, hparts⟩ :=
    exists_first_packagePath (c := c.past s.indent _) h.renamed h.gap h.path
    hkept rfl
  refine ⟨d, ?_, ?_, fun b => ?_⟩
  · simp only [groupEntry, first_append]
    exact first_lineStart hbefore (first_many hrest h.indent h.head_alias hd)
  · have hwhole := (Cursor.spans_past hrest).trans hspan
    rwa [← List.append_assoc] at hwhole
  · obtain ⟨hrenamed, hsource, hstart⟩ := hparts b
    refine ⟨hrenamed, hsource, hstart.trans ?_⟩
    simp [Spec.lead]
    omega

/-- An import renamed to the word is read as if it stood alone, without an alias. -/
theorem exists_first_singleImport (h : s.IsProper) (hrenamed : s.EchoesWord)
    (hbefore : ∀ x ∈ c.before, x = '\n') (hkept : c.kept = [])
    (hrest : c.rest = s.text ++ tail) :
    ∃ d, singleImport.first some c = some d ∧ c.Spans d s.read ∧
      ∀ b : Cursor, (b.matchTo d).part? .renamed = none ∧
        (b.matchTo d).part .source = s.path := by
  have hword : s.renamed = some "import".toList := hrenamed
  obtain ⟨hne, hblank⟩ := h.gap
  obtain ⟨y, gap, hgap⟩ := List.exists_cons_of_ne_nil hne
  obtain ⟨hy, hblank⟩ := List.forall_mem_cons.1 (hgap ▸ hblank)
  have hrest : c.rest = s.indent ++ ("import".toList ++ (y :: gap ++
      ('"' :: (s.path ++ '"' :: (s.pad ++ s.remark ++ tail))))) := by
    rw [hrest]
    simp [Spec.text, Spec.lead, hword, hgap, aliasText]
  have hnone : ∀ name ∈ (none : Option Text),
      name ≠ [] ∧ ∀ x ∈ name, isDottedChar x = true := by simp
  obtain ⟨d, hd, hspan, hparts⟩ := exists_first_packagePath
    (c := ((c.past s.indent _).past "import".toList _).past (y :: gap) _) hnone h.gap
      h.path hkept rfl
  refine ⟨d, ?_, ?_, fun b => ⟨(hparts b).1, (hparts b).2.1⟩⟩
  · simp only [singleImport, first_append]
    refine first_lineStart hbefore (first_many hrest h.indent (by rintro _ ⟨⟩; decide) ?_)
    exact first_word rfl (first_many1 rfl hy hblank (by rintro _ ⟨⟩; decide) hd)
  · have hstart :=
      ((Cursor.spans_past hrest).trans (Cursor.spans_past rfl)).trans
        (Cursor.spans_past rfl)
    have hread : s.read = s.indent ++ "import".toList ++ y :: gap ++
        (aliasText none s.gap ++ '"' :: (s.path ++ ['"'])) := by
      simp [Spec.read, Spec.lead, hword, hgap, aliasText]
    rw [hread]
    exact hstart.trans hspan

/-- A group is read to its first closing parenthesis. -/
theorem exists_first_importGroup (hgap : ∀ x ∈ gap, isInlineBlank x = true)
    (hclause : ')' ∉ clause) (hbefore : ∀ x ∈ c.before, x = '\n')
    (hrest : c.rest = header gap ++ (clause ++ ')' :: more)) :
    ∃ d, importGroup.first some c = some d ∧ c.Spans d (header gap ++ (clause ++ [')'])) ∧
      ∀ b : Cursor, (b.matchTo d).part .clause = clause ∧
        (b.matchTo d).startOf .clause = c.offset + (header gap).length := by
  have hrest : c.rest = "import".toList ++
      (gap ++ ("(".toList ++ (clause ++ (')' :: more)))) := by
    rw [hrest, header_eq, List.append_assoc, List.append_assoc]
  have htest : ∀ x ∈ clause, decide (x ≠ ')') = true :=
    fun x hx => decide_eq_true fun he => hclause (he ▸ hx)
  let f :=
    ((c.past "import".toList (gap ++ ("(".toList ++ (clause ++ (')' :: more))))).past gap
    ("(".toList ++ (clause ++ (')' :: more)))).past "(".toList (clause ++ (')' :: more))
  have hheader : c.Spans f (header gap) :=
    ((Cursor.spans_past hrest).trans (Cursor.spans_past rfl)).trans
      (Cursor.spans_past rfl)
  have hclosed :
      f.Spans (((f.past clause (')' :: more)).keeping .clause f).past [')'] more)
        (clause ++ [')']) :=
    Cursor.Spans.trans (d := (f.past clause (')' :: more)).keeping .clause f)
      ⟨rfl, rfl⟩ ⟨rfl, rfl⟩
  refine ⟨_, ?_, hheader.trans hclosed, fun b =>
    ⟨part_of_lookup rfl (Cursor.spans_past rfl), hheader.2⟩⟩
  simp only [importGroup, group, first_append]
  refine first_lineStart hbefore (first_many_of_stop ?_ (first_word hrest ?_))
  · rw [hrest]
    rintro _ ⟨⟩
    decide
  · refine first_many rfl hgap (by rintro _ ⟨⟩; decide) (first_word rfl ?_)
    rw [first_keep]
    exact first_many rfl htest (by rintro _ ⟨⟩; decide) (first_word rfl rfl)

end Reads

/-! ## The two passes -/

/-- A line as the passes see it: an import, or some text in which they find none. -/
inductive Line where
  | spec (s : Spec)
  | other (text : Text)
  deriving DecidableEq, Repr

def Line.text : Line → Text
  | spec s => s.text
  | other text => text

section Passes

variable {ended : Bool} {lines : List Line} {specs : List Spec} {s : Spec}
  {t tail : Text} {c : Cursor}

theorem Spec.IsProper.notMem_text (h : s.IsProper) : '\n' ∉ s.text := by
  have hlead : '\n' ∉ s.lead := fun hmem => absurd (h.forall_lead _ hmem) (by decide)
  have hpath : '\n' ∉ s.path := fun hmem => (h.path.2 _ hmem).2 rfl
  have hpad : '\n' ∉ s.pad := fun hmem => absurd (h.pad _ hmem) (by decide)
  have hremark : '\n' ∉ s.remark := by
    rw [Spec.remark]
    cases hcomment : s.comment with
    | none => exact List.not_mem_nil
    | some t => simpa using h.comment t hcomment
  simp only [Spec.text, List.mem_append, List.mem_cons, not_or]
  exact ⟨hlead, by decide, hpath, by decide, hpad, hremark⟩

/-- Behind a path nothing more is read on the line. -/
theorem foundFrom_spec {p : Pattern} {d : Cursor} {B : Text → Prop} (hp : StartsLine p)
    (hB : ∀ {c d : Cursor}, d ∈ p.ends c → B c.rest) (h : s.IsProper)
    (hrest : c.rest = s.text ++ tail)
    (hfirst : p.first some { c with kept := [] } = some d) (hspan : c.Spans d s.read) :
    p.foundFrom c = c.matchTo d :: p.foundFrom (c.past s.text tail) := by
  have hread : c.rest = s.read ++ (s.pad ++ s.remark ++ tail) := by
    rw [hrest, Spec.text_eq, List.append_assoc]
  have hne : s.read ≠ [] := by simp [Spec.read]
  have hbreak : '\n' ∉ s.pad ++ s.remark := fun hmem =>
    h.notMem_text (by rw [Spec.text_eq]; exact List.mem_append_right _ hmem)
  have hlast : s.read = (s.lead ++ '"' :: s.path) ++ ['"'] := by simp [Spec.read]
  have hquote : (c.past s.read (s.pad ++ s.remark ++ tail)).before = some '"' := by
    rw [Cursor.past_before_of_ne_nil hne, hlast, List.getLast?_concat]
  rw [foundFrom_of_first hread hne hfirst hspan,
    foundFrom_of_line hp hB hbreak Cursor.past_rest, Cursor.past_past, ← Spec.text_eq]
  rw [hquote]
  intro hbefore
  exact absurd (hbefore '"' rfl) (by decide)

/-- What the pass for imports that stand alone finds on a line. -/
def Line.single : Line → Nat → List (Option Text × Text × Nat)
  | spec s, line => if s.EchoesWord then [(none, s.path, line)] else []
  | other _, _ => []

theorem Line.single_other (t : Text) (line : Nat) : (other t).single line = [] := rfl

/-- What the pass over a group finds on a line, with the place of the path. -/
def Line.entry : Line → Nat → List (Option Text × Text × Nat)
  | spec s, offset => [(s.renamed, s.path, offset + (s.lead.length + 1))]
  | other _, _ => []

def Line.Suits (B : Text → Prop) : Line → Prop
  | spec s => s.IsProper
  | other line => IsQuiet B line

theorem Line.Suits.notMem {B : Text → Prop} {line : Line} (h : line.Suits B) :
    '\n' ∉ line.text := by
  cases line with
  | spec s => exact Spec.IsProper.notMem_text h
  | other t => exact h.1

theorem flatMap_singleImport (hlines : ∀ line ∈ lines, line.Suits BeginsSingle)
    {content : Text} (hcontent : content = stack ended (lines.map Line.text)) :
    (singleImport.findAll content).flatMap
        (fun m => [(m.part? .renamed, m.part .source, lineAt content m.start)]) =
      (numbered Line.text 1 lines).flatMap fun x => x.1.single x.2 := by
  subst hcontent
  refine flatMap_findAll_stack (fun c hend => matchAt_eq_none fun d hd => ?_)
    fun line hline c tail hrest hbefore htail => ?_
  · exact not_marked_of_endsBlock hend (by decide) (beginsSingle_of_mem_ends hd).1
  · have hsuits := hlines line hline
    cases line with
    | other t =>
        obtain ⟨hbreak, hnone⟩ := hsuits
        refine ⟨[], foundFrom_of_line startsLine_singleImport beginsSingle_of_mem_ends
          hbreak hrest fun _ => ?_, rfl⟩
        rw [hrest]
        exact hnone tail htail
    | spec s =>
        have hproper : s.IsProper := hsuits
        by_cases hrenamed : s.EchoesWord
        · obtain ⟨d, hd, hspan, hparts⟩ :=
            exists_first_singleImport (c := { c with kept := [] }) hproper hrenamed
            hbefore rfl hrest
          refine ⟨[c.matchTo d],
            foundFrom_spec startsLine_singleImport beginsSingle_of_mem_ends
              hproper hrest hd
            hspan, ?_⟩
          obtain ⟨hnone, hsource⟩ := hparts c
          dsimp only [Line.single]
          rw [List.flatMap_singleton, hnone, hsource, if_pos hrenamed]
          rfl
        · refine ⟨[], foundFrom_of_line startsLine_singleImport beginsSingle_of_mem_ends
            hproper.notMem_text hrest
            fun _ hbegins => hrenamed ?_, (if_neg hrenamed).symm⟩
          exact hproper.echoesWord (hrest ▸ hbegins)

theorem flatMap_groupEntry (hlines : ∀ line ∈ lines, line.Suits BeginsEntry) :
    (groupEntry.findAll (stack ended (lines.map Line.text))).flatMap
        (fun m => [(m.part? .renamed, m.part .source, m.startOf .source)]) =
      (placed Line.text 0 lines).flatMap fun x => x.1.entry x.2 := by
  refine flatMap_foundFrom_stack (c := .ofText _) (fun c hend =>
    matchAt_eq_none fun d hd => ?_)
    (fun line hline c tail hrest hbefore htail => ?_) rfl (by simp [Cursor.ofText])
  · exact not_marked_of_endsBlock hend (by decide) (beginsEntry_of_mem_ends hd).marked
  · have hsuits := hlines line hline
    cases line with
    | other t =>
        obtain ⟨hbreak, hnone⟩ := hsuits
        refine ⟨[], foundFrom_of_line startsLine_groupEntry beginsEntry_of_mem_ends hbreak
          hrest fun _ => ?_, rfl⟩
        rw [hrest]
        exact hnone tail htail
    | spec s =>
        have hproper : s.IsProper := hsuits
        obtain ⟨d, hd, hspan, hparts⟩ :=
          exists_first_groupEntry (c := { c with kept := [] }) hproper hbefore rfl hrest
        refine ⟨[c.matchTo d],
          foundFrom_spec startsLine_groupEntry beginsEntry_of_mem_ends hproper hrest hd
          hspan, ?_⟩
        obtain ⟨hrenamed, hsource, hstart⟩ := hparts c
        rw [List.flatMap_singleton, hrenamed, hsource, hstart]
        rfl

end Passes

end Rules.Go

end ImpactGraph
