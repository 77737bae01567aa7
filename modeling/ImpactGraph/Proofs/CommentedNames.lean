import Mathlib.Data.List.Basic
import ImpactGraph.Proofs.PackageLines

/-!
# Names with comments behind them

A list of names in parentheses can stand over many lines, each with a comment. The rule
takes the comments out before it looks for names, but only when it has found where the
list ends, and for that it takes the first closing parenthesis, a comment's too. So a
comment that holds one ends the list: the name before it is still read, since nothing of
the comment is left, and no name below is.

Nothing is read twice either. What is left of the list belongs to no statement, since no
line of it begins with a word that statements begin with.
-/

namespace ImpactGraph.Rules.Python

open Text Pattern

/-! ## The grammar -/

/-- A name on a line of its own, with a comma behind it and perhaps a comment. -/
structure NameLine where
  entry : Entry
  gaps : Gaps
  pad : Text := []
  comment : Option Text := none
  deriving DecidableEq, Repr

namespace NameLine

/-- The comment as it is written. -/
def remark (line : NameLine) : Text := (line.comment.map ('#' :: ·)).getD []

/-- The line up to its comment. -/
def front (line : NameLine) : Text := line.entry.spread line.gaps ++ ',' :: line.pad

def text (line : NameLine) : Text := line.front ++ line.remark

/-- The line without its comment. -/
def plain (line : NameLine) : NameLine := { line with comment := none }

structure IsProper (line : NameLine) : Prop where
  entry : line.entry.IsProper IsName
  /-- The other reserved word that begins a statement. -/
  free : line.entry.name ≠ "from".toList
  gaps : ∀ gap ∈ line.gaps.all, ∀ c ∈ gap, isInlineBlank c = true
  before : line.gaps.before ≠ []
  after : line.gaps.after ≠ []
  pad : ∀ c ∈ line.pad, isInlineBlank c = true
  comment : ∀ t ∈ line.comment, '\n' ∉ t

end NameLine

/-- A line on which no statement that imports begins. -/
structure IsOther (line : Text) : Prop where
  clean : '\n' ∉ line
  names : ¬ Begins "from".toList line
  modules : ¬ Begins "import".toList line

/-- The first line of a statement that lists names. -/
def header (package : Text) : Text :=
  "from ".toList ++ package ++ " import ".toList ++ ['(']

theorem header_eq (package : Text) :
    header package = "from ".toList ++ package ++ " import ".toList ++ ['('] := rfl

/-- The lines of a file with one list of names. -/
def listLines (before : List Text) (package : Text) (lines : List NameLine)
    (closing : Text) (after : List Text) : List Text :=
  before ++ header package :: (lines.map NameLine.text ++ footer closing :: after)

/-! ## Up to the first parenthesis -/

/-- The lines that are read: those up to the first with a closing parenthesis in its
comment. -/
def seen : List NameLine → List NameLine
  | [] => []
  | line :: lines => if ')' ∈ line.remark then [line] else line :: seen lines

/-- The names of lines, each with the blanks since the comma before it. -/
def placedNames (lead : Text) : List NameLine → List (Entry × Gaps)
  | [] => []
  | line :: lines =>
    (line.entry, { line.gaps with lead := lead ++ line.gaps.lead }) ::
      placedNames (line.pad ++ ['\n']) lines

/-- What stands in a list before its first closing parenthesis. -/
def listed (closing : Text) : List NameLine → Text
  | [] => closing
  | line :: lines =>
    if ')' ∈ line.remark then line.front ++ line.remark.takeWhile (· ≠ ')')
    else line.text ++ '\n' :: listed closing lines

section Seen

variable {lines : List NameLine} {line : NameLine} {closing lead a b t : Text}
  {after : List Text} {ended : Bool}

theorem dropLine_of_notMem (h : '\n' ∉ t) : dropComments.dropLine t = [] := by
  induction t with
  | nil => rfl
  | cons c t ih =>
      obtain ⟨hc, ht⟩ := not_or.1 (mt List.mem_cons.2 h)
      rw [dropComments.dropLine, if_neg (Ne.symm hc), ih ht]

theorem dropLine_append (h : '\n' ∉ t) : dropComments.dropLine (t ++ '\n' :: b) =
    '\n' :: dropComments b := by
  induction t with
  | nil => rfl
  | cons c t ih =>
      obtain ⟨hc, ht⟩ := not_or.1 (mt List.mem_cons.2 h)
      rw [List.cons_append, dropComments.dropLine, if_neg (Ne.symm hc), ih ht]

/-- A remark goes up to the end of its line. -/
theorem dropComments_remark (h : line.IsProper) :
    dropComments (line.remark ++ '\n' :: b) = '\n' :: dropComments b := by
  unfold NameLine.remark
  cases hcomment : line.comment with
  | none => rfl
  | some t => exact dropLine_append (h.comment t hcomment)

theorem body_cons (x : Entry × Gaps) (placed : List (Entry × Gaps)) (final : Text) :
    Clause.body (x :: placed) (some final) = x.1.spread x.2 ++ ',' ::
      Clause.body placed (some final) := by
  rw [Clause.body, List.map_cons, List.cons_append, join_cons _ _ (by simp), Clause.body]
  simp

/-- A list with a comma behind every name ends in one. -/
theorem exists_last_comma {placed : List (Entry × Gaps)} (hne : placed ≠ []) :
    ∃ front, Clause.body placed (some []) = front ++ [','] := by
  induction placed with
  | nil => exact absurd rfl hne
  | cons x placed ih =>
      by_cases hnil : placed = []
      · exact ⟨x.1.spread x.2, by rw [hnil, body_cons]; rfl⟩
      · obtain ⟨front, hfront⟩ := ih hnil
        exact ⟨x.1.spread x.2 ++ ',' :: front, by rw [body_cons, hfront]; simp⟩

theorem spread_lead (e : Entry) (lead : Text) (gaps : Gaps) :
    e.spread { gaps with lead := lead ++ gaps.lead } = lead ++ e.spread gaps := by
  unfold Entry.spread
  split <;> simp

theorem NameLine.IsProper.forall_front {P : Char → Prop} (h : line.IsProper)
    (hword : ∀ c, isWord c = true → P c) (hblank : ∀ c, isInlineBlank c = true → P c)
    (hcomma : P ',') : ∀ c ∈ line.front, P c := by
  refine List.forall_mem_append.2 ⟨?_,
    List.forall_mem_cons.2 ⟨hcomma, fun c hc => hblank c (h.pad c hc)⟩⟩
  exact Entry.forall_mem_spread h.entry hword fun gap hgap c hc =>
    hblank c (h.gaps gap hgap c hc)

theorem NameLine.IsProper.notMem_front {x : Char} (h : line.IsProper)
    (hword : isWord x = false) (hblank : isInlineBlank x = false) (hcomma : x ≠ ',') :
    x ∉ line.front := by
  refine fun hmem =>
    h.forall_front (P := (x ≠ ·)) (fun c hc hxc => ?_) (fun c hc hxc => ?_)
      hcomma x hmem rfl
  · exact absurd hc (by simp [← hxc, hword])
  · exact absurd hc (by simp [← hxc, hblank])

theorem NameLine.IsProper.exists_of_remark (h : line.IsProper)
    (hab : line.remark = a ++ ')' :: b) : ∃ s, a = '#' :: s ∧ '\n' ∉ s := by
  unfold NameLine.remark at hab
  cases hcomment : line.comment with
  | none =>
      rw [hcomment] at hab
      exact absurd hab (by simp)
  | some t =>
      have hsign : '#' :: t = a ++ ')' :: b := by simpa [hcomment] using hab
      cases a with
      | nil => exact absurd (List.cons.inj hsign).1 (by decide)
      | cons x s =>
          obtain ⟨rfl, rfl⟩ := List.cons.inj hsign
          exact ⟨s, rfl, fun hmem => h.comment _ hcomment (List.mem_append_left _ hmem)⟩

theorem exists_stack_listed (closing : Text) (after : List Text)
    (lines : List NameLine) : ∃ rest,
    stack ended (lines.map NameLine.text ++ footer closing :: after) =
      listed closing lines ++ ')' :: rest := by
  induction lines with
  | nil =>
      rcases stack_cons ended (footer closing) after with ⟨-, hstack⟩ | hstack
      · exact ⟨[], hstack⟩
      · refine ⟨'\n' :: stack ended after, hstack.trans ?_⟩
        simp [footer, listed]
  | cons line lines ih =>
      rw [List.map_cons, List.cons_append, stack_cons_of_ne_nil _ _ (by simp), listed]
      split
      · next hremark =>
          obtain ⟨a, b, hab, ha⟩ := List.eq_append_cons_of_mem hremark
          let below := stack ended (lines.map NameLine.text ++ footer closing :: after)
          refine ⟨b ++ '\n' :: below, ?_⟩
          rw [NameLine.text, hab, takeWhile_append_cons (ne_of_notMem ha) (by simp)]
          simp [below]
      · obtain ⟨rest, hrest⟩ := ih
        exact ⟨rest, by rw [hrest]; simp⟩

section Proper

variable (hlines : ∀ line ∈ lines, line.IsProper)
  (hclosing : ∀ c ∈ closing, isInlineBlank c = true)
include hlines hclosing

theorem notMem_listed : ')' ∉ listed closing lines := by
  induction lines with
  | nil => exact fun hmem => absurd (hclosing _ hmem) (by decide)
  | cons line lines ih =>
      obtain ⟨hline, hlines⟩ := List.forall_mem_cons.1 hlines
      have hfront : ')' ∉ line.front :=
        hline.notMem_front (by decide) (by decide) (by decide)
      rw [listed]
      split
      · have hremark : ')' ∉ line.remark.takeWhile (· ≠ ')') := fun hmem =>
          absurd (List.all_eq_true.1 List.all_takeWhile _ hmem) (by simp)
        simpa [hfront] using hremark
      · next hremark => simpa [NameLine.text, hfront, hremark] using ih hlines

/-- Without its comments a list is the names that are read, with its end behind them or,
where a comment ends it, with nothing but blanks. -/
theorem exists_dropComments_listed (hlead : ∀ c ∈ lead, isBlank c = true) : ∃ final back,
    lead ++ dropComments (listed closing lines ++ [')']) =
        Clause.body (placedNames lead (seen lines)) (some final) ++ back ∧
      (∀ c ∈ final, isBlank c = true) ∧
        (back = [')'] ∨ final = [] ∧ ∀ c ∈ back, isBlank c = true) := by
  induction lines generalizing lead with
  | nil =>
      have hsign : '#' ∉ closing := fun hmem => absurd (hclosing _ hmem) (by decide)
      refine ⟨lead ++ closing, [')'], ?_, ?_, .inl rfl⟩
      · rw [listed, dropComments_append hsign, ← List.append_assoc]
        rfl
      · exact List.forall_mem_append.2 ⟨hlead, fun c hc =>
          isBlank_of_isInlineBlank (hclosing c hc)⟩
  | cons line lines ih =>
      obtain ⟨hline, hlines⟩ := List.forall_mem_cons.1 hlines
      have hsign : '#' ∉ line.front :=
        hline.notMem_front (by decide) (by decide) (by decide)
      have hpad : ∀ c ∈ line.pad, isBlank c = true :=
        fun c hc => isBlank_of_isInlineBlank (hline.pad c hc)
      rw [listed, seen]
      split
      · next hremark =>
          obtain ⟨a, b, hab, ha⟩ := List.eq_append_cons_of_mem hremark
          obtain ⟨s, rfl, hs⟩ := hline.exists_of_remark hab
          -- The parenthesis itself is taken for a part of the comment.
          have hdrop : dropComments ('#' :: (s ++ [')'])) = [] :=
            dropLine_of_notMem (by simpa using hs)
          refine ⟨[], line.pad, ?_, List.forall_mem_nil _, .inr ⟨rfl, hpad⟩⟩
          rw [hab, takeWhile_append_cons (ne_of_notMem ha) (by simp), List.append_assoc,
            dropComments_append hsign, List.cons_append, hdrop, placedNames,
            body_cons, spread_lead]
          simp [NameLine.front, placedNames, Clause.body, join]
      · have hbreak : ∀ c ∈ line.pad ++ ['\n'], isBlank c = true :=
          List.forall_mem_append.2 ⟨hpad, by decide⟩
        obtain ⟨final, back, hbody, hfinal, hback⟩ := ih hlines hbreak
        refine ⟨final, back, ?_, hfinal, hback⟩
        rw [NameLine.text, List.append_assoc, List.append_assoc, List.cons_append,
          dropComments_append hsign, dropComments_remark hline, placedNames, body_cons,
          spread_lead, List.append_assoc, List.cons_append, ← hbody]
        simp [NameLine.front]

end Proper

theorem map_fst_placedNames (lead : Text) (lines : List NameLine) :
    (placedNames lead lines).map Prod.fst = lines.map (·.entry) := by
  induction lines generalizing lead with
  | nil => rfl
  | cons line lines ih => exact congrArg (line.entry :: ·) (ih _)

theorem proper_placedNames (hlines : ∀ line ∈ lines, line.IsProper)
    (hlead : ∀ c ∈ lead, isBlank c = true) :
    ∀ x ∈ placedNames lead lines, x.1.IsProper IsName ∧ x.2.IsProper := by
  induction lines generalizing lead with
  | nil => exact List.forall_mem_nil _
  | cons line lines ih =>
      obtain ⟨hline, hlines⟩ := List.forall_mem_cons.1 hlines
      have hgaps : ∀ gap ∈ line.gaps.all, ∀ c ∈ gap, isBlank c = true :=
        fun gap hgap c hc => isBlank_of_isInlineBlank (hline.gaps gap hgap c hc)
      have hpad : ∀ c ∈ line.pad ++ ['\n'], isBlank c = true :=
        List.forall_mem_append.2 ⟨fun c hc =>
          isBlank_of_isInlineBlank (hline.pad c hc), by decide⟩
      refine List.forall_mem_cons.2 ⟨⟨hline.entry, ⟨?_, hline.before, hline.after⟩⟩,
        ih hlines hpad⟩
      obtain ⟨hfirst, hothers⟩ := List.forall_mem_cons.1 hgaps
      exact List.forall_mem_cons.2 ⟨List.forall_mem_append.2 ⟨hlead, hfirst⟩, hothers⟩

theorem seen_isPrefix (lines : List NameLine) : seen lines <+: lines := by
  induction lines with
  | nil => exact List.prefix_rfl
  | cons line lines ih =>
      rw [seen]
      split
      · exact ⟨lines, rfl⟩
      · exact (List.prefix_cons_inj line).2 ih

theorem seen_ne_nil (hne : lines ≠ []) : seen lines ≠ [] := by
  cases lines with
  | nil => exact absurd rfl hne
  | cons line lines =>
      rw [seen]
      split <;> exact List.cons_ne_nil _ _

/-- The list is read up to its first closing parenthesis, and of the names up to there
none is missed. -/
theorem importedNames_listed (hne : lines ≠ []) (hlines : ∀ line ∈ lines, line.IsProper)
    (hclosing : ∀ c ∈ closing, isInlineBlank c = true) :
    importedNames ('(' :: ('\n' :: listed closing lines ++ [')'])) =
      ((seen lines).map (·.entry)).map fun e => (e.name, e.renamed) := by
  have hlead : ∀ c ∈ ['\n'], isBlank c = true := by decide
  obtain ⟨final, back, hbody, hfinal, hback⟩ :=
    exists_dropComments_listed hlines hclosing hlead
  have hseen : ∀ line ∈ seen lines, line.IsProper := fun line hline =>
    hlines line ((seen_isPrefix lines).subset hline)
  have hproper := proper_placedNames hseen hlead
  have hfst := map_fst_placedNames ['\n'] (seen lines)
  generalize hnames : placedNames ['\n'] (seen lines) = placed at hbody hproper hfst
  have hsome : placed ≠ [] := by
    rintro rfl
    exact seen_ne_nil hne (List.map_eq_nil_iff.1 hfst.symm)
  have hplaced : Clause.IsPlaced placed (some final) :=
    ⟨hsome, fun x hx => (hproper x hx).1, fun x hx => (hproper x hx).2, by
      simpa using hfinal⟩
  have hdrop : dropComments ('(' :: ('\n' :: listed closing lines ++ [')'])) =
      ['('] ++ Clause.body placed (some final) ++ back := by
    have hopen : '#' ∉ ['(', '\n'] := by decide
    rw [List.append_assoc, ← hbody]
    exact dropComments_append hopen
  rw [← hfst, List.map_map]
  refine Clause.importedNames_of_body hplaced ?_
  rw [hdrop]
  have hopen : Text.IsTrim ['('] := ⟨by decide, by decide⟩
  rcases hback with rfl | ⟨rfl, hblank⟩
  · have htrim : Text.IsTrim (['('] ++ Clause.body placed (some final) ++ [')']) :=
      hopen.between _ ⟨by decide, by decide⟩ (by decide) (by decide)
    rw [strip_eq htrim, Clause.trimWhile_body hplaced (by decide) (by decide)]
  · obtain ⟨front, hfront⟩ := exists_last_comma hsome
    have htrim : Text.IsTrim (['('] ++ Clause.body placed (some [])) := by
      rw [hfront, ← List.append_assoc]
      exact hopen.between _ ⟨by decide, by decide⟩ (by decide) (by decide)
    have hstrip := strip_pad htrim (List.forall_mem_nil _) hblank
    rw [List.nil_append] at hstrip
    have hbare :=
      Clause.trimWhile_body hplaced (by decide : ∀ c ∈ ['('], c = '(')
        (List.forall_mem_nil _)
    rw [List.append_nil] at hbare
    rw [hstrip, hbare]

end Seen

/-! ## Lines that begin no statement -/

section Lines

variable {word closing line t : Text} {y : Char} {package : Text} {lines : List NameLine}
  {after : List Text}

theorem not_begins_nil : ¬ Begins word [] := by
  rintro ⟨g, b, rest, heq, -⟩
  exact absurd heq (by simp)

theorem quiet_of_not_begins (hbreak : '\n' ∉ line) (hword : '\n' ∉ word)
    (h : ¬ Begins word line) : IsQuiet (Begins word) line :=
  ⟨hbreak, fun _ htail hbegins => h (hbegins.of_append hword htail)⟩

/-- A line begins with a word when the word and a blank come behind its first blanks. -/
theorem Begins.exists_dropWhile (hne : word ≠ []) (hword : ∀ c ∈ word, isWord c = true)
    (h : Begins word t) :
    ∃ b rest, t.dropWhile isInlineBlank = word ++ b :: rest ∧ isInlineBlank b = true := by
  obtain ⟨g, b, rest, rfl, hg, hb⟩ := h
  refine ⟨b, rest, ?_, hb⟩
  rw [List.append_assoc, dropWhile_pad hg]
  intro c hc
  rw [List.head?_append_of_ne_nil _ hne] at hc
  exact isInlineBlank_of_isWord (hword c (List.mem_of_head? hc))

/-- A line of a list begins with its name. -/
theorem NameLine.IsProper.exists_first_word {line : NameLine}
    (h : line.IsProper) : ∃ y more,
    line.text = line.gaps.lead ++ (line.entry.name ++ y :: more) ∧ isWord y = false := by
  obtain ⟨hlead, hbefore, hafter, htrail, -⟩ :
      (∀ c ∈ line.gaps.lead, isInlineBlank c = true) ∧
      (∀ c ∈ line.gaps.before, isInlineBlank c = true) ∧
      (∀ c ∈ line.gaps.after, isInlineBlank c = true) ∧
      (∀ c ∈ line.gaps.trail, isInlineBlank c = true) ∧ _ := by
    simpa only [Gaps.all, List.forall_mem_cons] using h.gaps
  rw [NameLine.text, NameLine.front, Entry.spread]
  split
  · cases htrailing : line.gaps.trail with
    | nil => exact ⟨',', line.pad ++ line.remark, by simp, by decide⟩
    | cons y trail =>
        refine ⟨y, trail ++ ',' :: (line.pad ++ line.remark), by simp, ?_⟩
        exact isWord_of_isInlineBlank (htrail y (by simp [htrailing]))
  · next renamed hrenamed =>
      obtain ⟨y, gap, hgap⟩ := List.exists_cons_of_ne_nil h.before
      refine ⟨y,
        gap ++ ("as".toList ++ (line.gaps.after ++ (renamed ++ (line.gaps.trail ++ ',' ::
        (line.pad ++ line.remark))))), by simp [hgap], ?_⟩
      exact isWord_of_isInlineBlank (hbefore y (by simp [hgap]))

theorem NameLine.IsProper.notMem_text {line : NameLine} (h : line.IsProper) :
    '\n' ∉ line.text := by
  have hremark : '\n' ∉ line.remark := by
    unfold NameLine.remark
    cases hcomment : line.comment with
    | none => exact List.not_mem_nil
    | some t => simpa using h.comment t hcomment
  rw [NameLine.text, List.mem_append, not_or]
  exact ⟨h.notMem_front (by decide) (by decide) (by decide), hremark⟩

theorem notMem_header (hpackage : IsPackage package) : '\n' ∉ header package := by
  rw [header_eq]
  simp only [List.mem_append, not_or]
  exact ⟨⟨⟨by decide, fun hmem => absurd (hpackage.dotted _ hmem) (by decide)⟩,
    by decide⟩, by decide⟩

section Word

variable (hne : word ≠ []) (hword : ∀ c ∈ word, isWord c = true)
include hne hword

theorem NameLine.IsProper.not_begins {line : NameLine} (h : line.IsProper)
    (hname : line.entry.name ≠ word) : ¬ Begins word line.text := by
  intro hbegins
  obtain ⟨y, more, htext, hy⟩ := h.exists_first_word
  obtain ⟨b, rest, heq, hb⟩ := hbegins.exists_dropWhile hne hword
  have hclean {t : Text} (ht : ∀ c ∈ t, isWord c = true) : ∀ c ∈ t, (!isWord c) = false :=
    fun c hc => by rw [ht c hc]; rfl
  have hhead : ∀ c ∈ (line.entry.name ++ y :: more).head?, isInlineBlank c = false := by
    intro c hc
    rw [List.head?_append_of_ne_nil _ h.entry.name.ne_nil] at hc
    exact isInlineBlank_of_isWord (h.entry.name.word c (List.mem_of_head? hc))
  have hlead : ∀ c ∈ line.gaps.lead, isInlineBlank c = true :=
    h.gaps _ (by simp [Gaps.all])
  rw [htext, dropWhile_pad hlead hhead] at heq
  exact hname (eq_of_first (hclean h.entry.name.word) (hclean hword) (by simp [hy])
    (by simp [isWord_of_isInlineBlank hb]) heq).1

theorem not_begins_footer (hclosing : ∀ c ∈ closing, isInlineBlank c = true) :
    ¬ Begins word (footer closing) := by
  intro hbegins
  obtain ⟨b, rest, heq, -⟩ := hbegins.exists_dropWhile hne hword
  rw [footer, dropWhile_pad hclosing (by rintro _ ⟨⟩; decide)] at heq
  obtain ⟨x, word, rfl⟩ := List.exists_cons_of_ne_nil hne
  obtain rfl := (List.cons.inj heq).1
  exact absurd (hword ')' List.mem_cons_self) (by decide)

/-- No line below the first of a list begins a statement. -/
theorem quiet_below (hlines : ∀ line ∈ lines, line.IsProper ∧ line.entry.name ≠ word)
    (hclosing : ∀ c ∈ closing, isInlineBlank c = true)
    (hafter : ∀ line ∈ after, '\n' ∉ line ∧ ¬ Begins word line) :
    ∀ line ∈ lines.map NameLine.text ++ footer closing :: after,
      IsQuiet (Begins word) line := by
  have hbreak : '\n' ∉ word := fun hmem => absurd (hword _ hmem) (by decide)
  refine List.forall_mem_append.2 ⟨fun text htext =>
    ?_, List.forall_mem_cons.2 ⟨?_, fun line hline => ?_⟩⟩
  · obtain ⟨line, hline, rfl⟩ := List.mem_map.1 htext
    obtain ⟨hproper, hname⟩ := hlines line hline
    exact quiet_of_not_begins hproper.notMem_text hbreak
      (hproper.not_begins hne hword hname)
  · exact quiet_of_not_begins (notMem_footer hclosing) hbreak
      (not_begins_footer hne hword hclosing)
  · exact quiet_of_not_begins (hafter line hline).1 hbreak (hafter line hline).2

end Word

end Lines

/-! ## What is found -/

section Found

variable {w : Workspace} {root file package closing content : Text}
  {before after : List Text} {lines : List NameLine} {ended : Bool}

/-- Of a list the pass over packages finds one statement, which holds the names that are
read. -/
theorem exists_findAll_fromImport (hbefore : ∀ line ∈ before, IsOther line)
    (hafter : ∀ line ∈ after, IsOther line) (hpackage : IsPackage package)
    (hne : lines ≠ []) (hlines : ∀ line ∈ lines, line.IsProper)
    (hclosing : ∀ c ∈ closing, isInlineBlank c = true)
    (hcontent : content = stack ended (listLines before package lines closing after)) :
    ∃ m, fromImport.findAll content = [m] ∧ lineAt content m.start = before.length + 1 ∧
      m.part .source = package ∧
      importedNames (m.part .clause) = ((seen lines).map (·.entry)).map fun e =>
        (e.name, e.renamed) := by
  obtain ⟨rest, hstack⟩ := @exists_stack_listed ended closing after lines
  have hgroup := notMem_listed hlines hclosing
  have hnames := importedNames_listed hne hlines hclosing
  generalize listed closing lines = group at hstack hgroup hnames
  have hquiet := @quiet_below "from".toList closing lines after (by decide) (by decide)
    (fun line hline => ⟨hlines line hline, (hlines line hline).free⟩) hclosing
    fun line hline => ⟨(hafter line hline).clean, (hafter line hline).names⟩
  have habove : ∀ line ∈ before, IsQuiet (Begins "from".toList) line := fun line hline =>
    quiet_of_not_begins (hbefore line hline).clean (by decide) (hbefore line hline).names
  generalize hclause : '(' :: ('\n' :: group ++ [')']) = clause at hnames
  have hsplit :
    stack ended (header package :: (lines.map NameLine.text ++ footer closing :: after)) =
      "from ".toList ++ package ++ " import ".toList ++ clause ++ rest := by
    rw [stack_cons_of_ne_nil _ _ (by simp), hstack, ← hclause, header_eq]
    simp
  generalize htaken : "from ".toList ++ package ++ " import ".toList ++ clause =
    taken at hsplit
  have hlast : taken.getLast? = some ')' := by
    rw [← htaken, ← hclause, ← List.cons_append, ← List.append_assoc,
      List.getLast?_concat]
  have hstart :
      ∀ x ∈ ((Cursor.ofText content).past (stack true before) (taken ++ rest)).before,
      x = '\n' := by
    show ∀ x ∈ (stack true before).getLast?.or none, x = '\n'
    rw [Option.or_none]
    exact getLast?_stack_true before
  have hread {c : Cursor} {next : Cursor → Option Cursor} {r : Cursor} (hrest : c.rest =
    clause ++ rest)
      (hnext : next (c.past clause rest) = some r) :
        importedClause.first next c = some r := by
    subst hclause
    exact @first_listed _ next r c rest ('\n' :: group)
      (by simpa using hgroup) hrest hnext
  obtain ⟨hsome, hhead⟩ : clause ≠ [] ∧ ∀ x ∈ clause.head?, isBlank x = false := by
    rw [← hclause]
    exact ⟨List.cons_ne_nil _ _, by rintro _ ⟨⟩; decide⟩
  obtain ⟨d, hd, hspan, hsource, hpart⟩ :=
    exists_first_of_clause hpackage hread hsome hhead hstart
    (by rw [Cursor.past_rest, ← htaken])
  rw [htaken] at hspan
  refine ⟨_,
    findAll_of_first leads_fromImport.line leads_fromImport.begins not_begins_nil habove
    (notMem_header hpackage) hquiet hcontent hsplit ⟨')', hlast, by decide⟩ hd hspan,
    ?_, hsource, ?_⟩
  · have hlength :
      (Cursor.matchTo
        ((Cursor.ofText content).past (stack true before) (taken ++ rest)) d).start =
        (stack true before).length := Nat.zero_add _
    rw [hlength, lineAt, hcontent, listLines, stack_append _ _ (List.cons_ne_nil _ _),
      List.take_left, count_stack_true fun line hline => (hbefore line hline).clean]
  · rw [hpart, hnames]

theorem findAll_plainImport (hbefore : ∀ line ∈ before, IsOther line)
    (hafter : ∀ line ∈ after, IsOther line) (hpackage : IsPackage package)
    (hlines : ∀ line ∈ lines, line.IsProper)
    (hclosing : ∀ c ∈ closing, isInlineBlank c = true) :
    plainImport.findAll (stack ended (listLines before package lines closing after)) =
      [] := by
  refine findAll_eq_nil_of_quiet leads_plainImport.line leads_plainImport.begins
    not_begins_nil ?_
  refine List.forall_mem_append.2 ⟨fun line hline => ?_, List.forall_mem_cons.2 ⟨?_, ?_⟩⟩
  · exact quiet_of_not_begins (hbefore line hline).clean (by decide)
      (hbefore line hline).modules
  · exact quiet_of_not_begins (notMem_header hpackage) (by decide)
      (not_begins (by decide) (by decide))
  · exact quiet_below (by decide) (by decide)
      (fun line hline =>
        ⟨hlines line hline, (hlines line hline).entry.name.free⟩) hclosing
      fun line hline => ⟨(hafter line hline).clean, (hafter line hline).modules⟩

/-- The imports and edges of a file with one list of names. -/
def listFacts (w : Workspace) (root file : Text) (ended : Bool) (before : List Text)
    (package closing : Text) (after : List Text) (lines : List NameLine) :
    List Import × List Text :=
  let facts := FileFacts.ofFindings file .python
    (findings w root file (stack ended (listLines before package lines closing after)))
  (facts.imports, facts.edges)

/-- A file with a list of names records those that are read, and nothing else. -/
theorem listFacts_eq (hbefore : ∀ line ∈ before, IsOther line)
    (hafter : ∀ line ∈ after, IsOther line) (hpackage : IsPackage package)
    (hne : lines ≠ []) (hlines : ∀ line ∈ lines, line.IsProper)
    (hclosing : ∀ c ∈ closing, isInlineBlank c = true) :
    let clause := Clause.line ((seen lines).map (·.entry))
    listFacts w root file ended before package closing after lines =
      (clause.imports w root file package (before.length + 1),
        distinct (clause.targets w root file package)) := by
  intro clause
  obtain ⟨m, hfound, hline, hsource, hnames⟩ :=
    @exists_findAll_fromImport package closing _ before after lines ended hbefore hafter
      hpackage hne hlines hclosing rfl
  have hentries : ∀ e ∈ (seen lines).map (·.entry), e.IsProper IsName := by
    intro e he
    obtain ⟨line, hline, rfl⟩ := List.mem_map.1 he
    exact (hlines line ((seen_isPrefix lines).subset hline)).entry
  obtain ⟨exported, hfindings⟩ :=
    exists_findings_eq w root file
      (stack ended (listLines before package lines closing after))
  rw [hfound, findAll_plainImport hbefore hafter hpackage hlines hclosing,
    List.flatMap_singleton, List.flatMap_nil, List.append_nil, hline,
    hsource] at hfindings
  simp only [listFacts, FileFacts.ofFindings_eq, hfindings, List.filterMap_append,
    Finding.imports_of_exports, Finding.targets_of_exports,
    imports_of_names hnames hentries, targets_of_names hnames hentries,
    List.append_nil, clause]

theorem seen_eq_iff (lines : List NameLine) :
    seen lines = lines ↔ ∀ line ∈ lines.dropLast, ')' ∉ line.remark := by
  induction lines with
  | nil => simp [seen]
  | cons line lines ih =>
      rw [seen]
      by_cases hremark : ')' ∈ line.remark
      · rw [if_pos hremark, List.cons.injEq]
        cases lines with
        | nil => simp
        | cons next lines => simp [hremark]
      · rw [if_neg hremark, List.cons.injEq, ih]
        cases lines with
        | nil => simp
        | cons next lines => simp [hremark]

theorem seen_plain (lines : List NameLine) :
    seen (lines.map NameLine.plain) = lines.map NameLine.plain := by
  rw [seen_eq_iff, ← List.map_dropLast]
  intro line hline
  obtain ⟨original, -, rfl⟩ := List.mem_map.1 hline
  exact List.not_mem_nil

theorem NameLine.IsProper.plain {line : NameLine} (h : line.IsProper) :
    line.plain.IsProper :=
  { h with comment := nofun }

theorem listFacts_plain (hbefore : ∀ line ∈ before, IsOther line)
    (hafter : ∀ line ∈ after, IsOther line) (hpackage : IsPackage package)
    (hne : lines ≠ []) (hlines : ∀ line ∈ lines, line.IsProper)
    (hclosing : ∀ c ∈ closing, isInlineBlank c = true) :
    let clause := Clause.line (lines.map (·.entry))
    listFacts w root file ended before package closing after (lines.map NameLine.plain) =
      (clause.imports w root file package (before.length + 1),
        distinct (clause.targets w root file package)) := by
  have hplain : ∀ line ∈ lines.map NameLine.plain, line.IsProper := by
    intro line hline
    obtain ⟨original, horiginal, rfl⟩ := List.mem_map.1 hline
    exact (hlines original horiginal).plain
  rw [listFacts_eq hbefore hafter hpackage (by simpa using hne) hplain hclosing,
    seen_plain, List.map_map]
  rfl

/-- A list with comments records what the list of the lines that are read records without
them. This is what it records without them at all just when no comment above the last line
holds a closing parenthesis. -/
theorem comments_read_to_parenthesis (w : Workspace) (root file : Text)
    (hpackage : IsPackage package) (hbefore : ∀ line ∈ before, IsOther line)
    (hafter : ∀ line ∈ after, IsOther line) (hlines : ∀ line ∈ lines, line.IsProper)
    (hclosing : ∀ c ∈ closing, isInlineBlank c = true) (ended : Bool) :
    let found := listFacts w root file ended before package closing after
    found lines = found ((seen lines).map NameLine.plain) ∧
      (found lines = found (lines.map NameLine.plain) ↔ ∀ line ∈ lines.dropLast,
        ')' ∉ line.remark) := by
  intro found
  by_cases hne : lines = []
  · subst hne
    exact ⟨rfl, by simp⟩
  have hseen : ∀ line ∈ seen lines, line.IsProper :=
    fun line hline => hlines line ((seen_isPrefix lines).subset hline)
  have hread : found lines = found ((seen lines).map NameLine.plain) :=
    (listFacts_eq hbefore hafter hpackage hne hlines hclosing).trans
      (listFacts_plain hbefore hafter hpackage (seen_ne_nil hne) hseen hclosing).symm
  refine ⟨hread, ?_⟩
  rw [← seen_eq_iff]
  constructor
  · intro h
    have hlength : (found lines).1.length =
        (found (lines.map NameLine.plain)).1.length := by rw [h]
    have hcount : (seen lines).length = lines.length := by
      simpa [found, listFacts_eq hbefore hafter hpackage hne hlines hclosing,
        listFacts_plain hbefore hafter hpackage hne hlines hclosing, Clause.imports,
        Clause.entries] using hlength
    exact (seen_isPrefix lines).eq_of_length hcount
  · intro h
    rw [hread, h]

end Found

/-- A package of two modules beside a script. -/
def scriptBesidePackage : Workspace where
  cwd := "/proj".toList
  tree := .directory [("proj".toList, .directory [
    ("main.py".toList, .file []),
    ("p".toList,
      .directory [("__init__.py".toList, .file []), ("b.py".toList, .file [])])])]

/-- Two names, the first of which has parentheses in its comment. -/
def commentedLines : List NameLine :=
  [⟨⟨"a".toList, none⟩, .single "    ".toList, "  ".toList, some " x (y) z".toList⟩,
    ⟨⟨"b".toList, some "c".toList⟩, .single "    ".toList, [], none⟩]

theorem proper_commentedLines : ∀ line ∈ commentedLines, line.IsProper := by
  have hname : ∀ name ∈ ["a".toList, "b".toList, "c".toList], IsName name :=
    fun name hname =>
      ⟨by revert name; decide, by revert name; decide, by revert name; decide⟩
  refine List.forall_mem_cons.2 ⟨?_, List.forall_mem_singleton.2 ?_⟩
  · exact ⟨⟨hname _ (by decide), nofun⟩, by decide, by decide, by decide, by decide, by
      decide, by decide⟩
  · refine ⟨⟨hname _ (by decide), ?_⟩, by decide, by decide, by decide, by decide, by
      decide, nofun⟩
    rintro name ⟨⟩
    exact hname _ (by decide)

theorem comments_read_to_parenthesis_of_commentedLines :
    listFacts scriptBesidePackage "/proj".toList "/proj/main.py".toList true
      ["# start".toList] "p".toList [] []
        commentedLines =
      ([⟨"a".toList, "/proj/p/__init__.py".toList, .named, "p".toList, 2, none⟩],
        ["/proj/p/__init__.py".toList]) := by
  have hpackage : IsPackage "p".toList :=
    .absolute (IsName.module ⟨by decide, by decide, by decide⟩)
  have hbefore : ∀ line ∈ ["# start".toList], IsOther line :=
    List.forall_mem_singleton.2
      ⟨by decide, not_begins (by decide) (by decide), not_begins (by decide) (by decide)⟩
  obtain ⟨hread, -⟩ :=
    comments_read_to_parenthesis scriptBesidePackage "/proj".toList
      "/proj/main.py".toList hpackage
    hbefore (List.forall_mem_nil _) proper_commentedLines (List.forall_mem_nil _) true
  rw [hread]
  decide +kernel

/-- With its comment the list loses the second name, and the edge to the module of that
name. -/
theorem lost_name_of_commentedLines :
    let found (lines : List NameLine) :=
      let facts :=
        listFacts scriptBesidePackage "/proj".toList "/proj/main.py".toList true []
          "p".toList [] [] lines
      (facts.1.map (·.symbol), facts.2)
    stack true (listLines [] "p".toList commentedLines [] []) =
        "from p import (\n    a,  # x (y) z\n    b as c,\n)\n".toList ∧
      found commentedLines = (["a".toList], ["/proj/p/__init__.py".toList]) ∧
      found (commentedLines.map NameLine.plain) =
        (["a".toList, "b".toList],
          ["/proj/p/b.py".toList, "/proj/p/__init__.py".toList]) := by
  decide +kernel

end ImpactGraph.Rules.Python
