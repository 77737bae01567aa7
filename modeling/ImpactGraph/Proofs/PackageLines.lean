import ImpactGraph.Proofs.PackageClauses
import ImpactGraph.Proofs.TextBlocks

/-!
# Scripts that import packages and modules

Two passes read the statements of a script, one for names from packages and one
for modules. Both look for their word at the beginning of a line, and a block
has it there only when it is a statement of that kind: the first line says
which kind it is, and the lines that follow in parentheses hold names, none of
which is the word. So the passes keep out of each other's lines.

Within a statement the match takes one way only. What stands between two parts
is a single space, and each part ends where a character comes that it does not
take.
-/

namespace ImpactGraph.Rules.Python

open Text Pattern

/-! ## The grammar -/

/-- A statement that imports modules, or names from a package. -/
inductive Statement where
  | modules (entries : List Entry)
  | names (package : Text) (clause : Clause)
  deriving DecidableEq, Repr

namespace Statement

def text : Statement → Text
  | modules entries => "import ".toList ++ join ", ".toList (entries.map Entry.text)
  | names package clause => "from ".toList ++ package ++ " import ".toList ++ clause.text

def IsProper : Statement → Prop
  | modules entries => entries ≠ [] ∧ ∀ e ∈ entries, e.IsProper IsModule
  | names package clause => IsPackage package ∧ clause.IsProper

theorem text_modules (entries : List Entry) : (modules entries).text =
    "import ".toList ++ join ", ".toList (entries.map Entry.text) := rfl

end Statement

/-! ## Lines that a word begins -/

/-- A line begins with a word: blanks may come before it, and one follows. -/
def Begins (word t : Text) : Prop :=
  ∃ g b x, t = g ++ word ++ b :: x ∧ (∀ y ∈ g, isInlineBlank y = true) ∧
    isInlineBlank b = true

/-- A pattern for lines that a word begins. -/
structure Leads (p : Pattern) (word : Text) : Prop where
  line : ∀ c d, d ∈ p.ends c → ∀ x ∈ c.before, x = '\n'
  takes : ∀ t, p.Takes t → Begins word t

section Leads

variable {p : Pattern} {word t u v tail : Text} {c : Cursor} {x y : Char}

theorem begins_append (h : Begins word t) (tail : Text) : Begins word (t ++ tail) := by
  obtain ⟨g, b, x, rfl, hg, hb⟩ := h
  exact ⟨g, b, x ++ tail, by simp, hg, hb⟩

theorem Begins.head (h : Begins (x :: word) t) : ∃ y, t.head? = some y ∧
    (isInlineBlank y = true ∨ y = x) := by
  obtain ⟨g, b, z, rfl, hg, -⟩ := h
  cases g with
  | nil => exact ⟨x, rfl, .inr rfl⟩
  | cons y g => exact ⟨y, rfl, .inl (hg y List.mem_cons_self)⟩

theorem not_begins (hy : isInlineBlank y = false) (hx : y ≠ x) :
    ¬ Begins (x :: word) (y :: t) := by
  intro h
  obtain ⟨z, hz, hor⟩ := h.head
  obtain rfl : y = z := Option.some.inj hz
  exact hor.elim (by simp [hy]) hx

/-- A line that goes to the end of a block begins there as it does with what follows. -/
theorem Begins.of_append (h : Begins word (t ++ tail)) (hword : '\n' ∉ word)
    (htail : EndsBlock tail) : Begins word t := by
  obtain ⟨g, b, x, heq, hg, hb⟩ := h
  have hclean : '\n' ∉ g ++ word ++ [b] := by
    simp only [List.mem_append, List.mem_singleton, not_or]
    refine ⟨⟨fun hmem => absurd (hg _ hmem) (by decide), hword⟩, ?_⟩
    rintro rfl
    exact absurd hb (by decide)
  have heq : t ++ tail = (g ++ word ++ [b]) ++ x := by simpa using heq
  rcases List.append_eq_append_iff.1 heq with ⟨r, hr, htail'⟩ | ⟨r, rfl, -⟩
  · cases r with
    | nil =>
        refine ⟨g, b, [], ?_, hg, hb⟩
        simpa using hr.symm
    | cons y r =>
        obtain rfl : y = '\n' := htail y (by rw [htail']; rfl)
        exact absurd (by rw [hr]; simp) hclean
  · exact ⟨g, b, r, by simp, hg, hb⟩

theorem Leads.begins (hp : Leads p word) {d : Cursor} (h : d ∈ p.ends c) :
    Begins word c.rest := by
  obtain ⟨t, ⟨hrest, -⟩, ht⟩ := takes_of_mem_ends h
  rw [hrest]
  exact begins_append (hp.takes t ht) d.rest

theorem matchAt_of_leads (hp : Leads p word)
    (h : (∀ x ∈ c.before, x = '\n') → ¬ Begins word c.rest) : p.matchAt c = none := by
  refine matchAt_eq_none fun d hd => ?_
  have hbefore := hp.line _ d hd
  have hbegins := hp.begins hd
  exact h hbefore hbegins

theorem matchAt_of_endsBlock (hp : Leads p (x :: word)) (hx : x ≠ '\n')
    (hend : EndsBlock c.rest) : p.matchAt c = none := by
  refine matchAt_of_leads hp fun _ hbegins => ?_
  obtain ⟨y, hy, hor⟩ := hbegins.head
  obtain rfl : y = '\n' := hend y hy
  exact hor.elim (by decide) (Ne.symm hx)

/-- A block in which no line begins with the word holds no match. -/
theorem foundFrom_of_leads (hp : Leads p word) (hword : '\n' ∉ word)
    (htail : EndsBlock tail) (hrest : c.rest = t ++ tail) (hfirst : ¬ Begins word t)
    (hmore : ∀ u v, t = u ++ '\n' :: v → ¬ Begins word v) :
    p.foundFrom c = p.foundFrom (c.past t tail) := by
  refine foundFrom_of_lines hp.line hp.begins hrest (fun _ _ hbegins => hfirst ?_)
    fun u v huv _ hbegins => ?_
  · rw [hrest] at hbegins
    exact hbegins.of_append hword htail
  · exact hmore u v huv (hbegins.of_append hword htail)

end Leads

/-! ## The two patterns -/

section Patterns

variable {β : Type} {next : Cursor → Option β} {r : β} {c : Cursor}
  {package tail t : Text} {clause : Clause} {entries : List Entry}

theorem begins_of_takes {word : String} {q : Pattern}
    (h :
      (lineStart ++ (inlineGap ++ (Pattern.word word ++ (inlineSpace ++ q)))).Takes t) :
        Begins word.toList t := by
  obtain ⟨_, _, rfl, rfl, g, _, rfl, hg, _, _, rfl, rfl, _, x, rfl,
      ⟨_, s, rfl, ⟨b, rfl, hb⟩, -⟩, -⟩ := h
  exact ⟨g, b, s ++ x, by simp, hg, hb⟩

theorem leads_fromImport : Leads fromImport "from".toList := by
  refine ⟨startsLine_of_front rfl, fun t ht => ?_⟩
  simp only [fromImport, takes_append_assoc] at ht
  exact begins_of_takes ht

theorem leads_plainImport : Leads plainImport "import".toList := by
  refine ⟨startsLine_of_front rfl, fun t ht => ?_⟩
  simp only [plainImport, takes_append_assoc] at ht
  exact begins_of_takes ht

/-- What a package is read with. -/
def packageName : Pattern :=
  orElse (many1 (· = '.') ++ many isDottedChar) (many1 isDottedChar)

theorem first_packageName (h : IsPackage package) (hrest : c.rest = package ++ tail)
    (hstop : ∀ x ∈ tail.head?, isDottedChar x = false)
    (hnext : next (c.past package tail) = some r) :
    packageName.first next c = some r := by
  cases h with
  | absolute h =>
      obtain ⟨x, module, rfl⟩ := List.exists_cons_of_ne_nil h.ne_nil
      obtain ⟨hx, hmodule⟩ := List.forall_mem_cons.1 h.dotted
      refine first_of_orElse_right ?_ (first_many1 hrest hx hmodule hstop hnext)
      rw [many1, first_append, first_append]
      exact first_one_of_stop (by simpa [hrest] using h.head)
  | @relative above module h =>
      have hdots : List.replicate (above + 1) '.' = '.' :: List.replicate above '.' := rfl
      have hdotted : ∀ x ∈ module, isDottedChar x = true := by
        rcases h with rfl | h
        · exact List.forall_mem_nil _
        · exact h.dotted
      have hmodule : ∀ x ∈ (module ++ tail).head?, decide (x = '.') = false := by
        have htail : ∀ x ∈ tail.head?, decide (x = '.') = false := by
          intro x hx
          refine decide_eq_false fun hdot => ?_
          exact absurd (hstop x hx) (by rw [hdot]; decide)
        rcases h with rfl | h
        · exact htail
        · rw [List.head?_append_of_ne_nil _ h.ne_nil]
          exact h.head
      have hrest : c.rest = '.' :: List.replicate above '.' ++ (module ++ tail) := by
        simpa [hdots] using hrest
      refine first_of_orElse ?_
      rw [first_append]
      refine first_many1 hrest (by decide) (fun y hy => ?_) hmodule ?_
      · rw [List.eq_of_mem_replicate hy]
        decide
      · refine first_many Cursor.past_rest hdotted hstop ?_
        rw [Cursor.past_past]
        exact hnext

/-- What names from a package are read with. -/
def importedClause : Pattern :=
  orElse (word "(" ++ many (· ≠ ')') ++ word ")") (many1 isStatementChar)

theorem isStatementChar_of_isDottedChar {x : Char} (hx : isDottedChar x = true) :
    isStatementChar x = true := by
  by_contra hend
  simp only [isStatementChar, Bool.not_eq_true', Bool.not_eq_false, Bool.or_eq_true,
    decide_eq_true_eq] at hend
  rcases hend with (rfl | rfl) | rfl <;> exact absurd hx (by decide)

/-- A list on a line is read to the end of the line. -/
theorem first_statement (hne : t ≠ []) (ht : ∀ x ∈ t, isStatementChar x = true)
    (htail : EndsBlock tail) (hrest : c.rest = t ++ tail)
    (hnext : next (c.past t tail) = some r) :
    (many1 isStatementChar).first next c = some r := by
  obtain ⟨x, t, rfl⟩ := List.exists_cons_of_ne_nil hne
  obtain ⟨hx, ht⟩ := List.forall_mem_cons.1 ht
  refine first_many1 hrest hx ht (fun y hy => ?_) hnext
  rw [htail y hy]
  decide

/-- A list in parentheses is read to its first closing one. -/
theorem first_listed {group : Text} (hgroup : ')' ∉ group)
    (hrest : c.rest = '(' :: (group ++ [')']) ++ tail)
    (hnext : next (c.past ('(' :: (group ++ [')'])) tail) = some r) :
    importedClause.first next c = some r := by
  have hparen : ∀ x ∈ group, decide (x ≠ ')') = true :=
    fun x hx => decide_eq_true fun hxp => hgroup (hxp ▸ hx)
  have hrest : c.rest = "(".toList ++ (group ++ (")".toList ++ tail)) := by
    simpa using hrest
  refine first_of_orElse ?_
  rw [first_append, first_append]
  refine first_word hrest (first_many Cursor.past_rest hparen (by rintro x ⟨⟩; decide) ?_)
  refine first_word Cursor.past_rest ?_
  rw [Cursor.past_past, Cursor.past_past]
  refine Eq.trans (congrArg (fun t => next (c.past t tail)) ?_) hnext
  simp

theorem first_importedClause (h : clause.IsProper) (htail : EndsBlock tail)
    (hrest : c.rest = clause.text ++ tail)
    (hnext : next (c.past clause.text tail) = some r) :
    importedClause.first next c = some r := by
  have hline {t : Text} (hne : t ≠ []) (ht : ∀ x ∈ t, isStatementChar x = true ∧ x ≠ '(')
      (hrest : c.rest = t ++ tail) (hnext : next (c.past t tail) = some r) :
      importedClause.first next c = some r := by
    refine first_of_orElse_right ?_
      (first_statement hne (fun x hx => (ht x hx).1) htail hrest hnext)
    refine first_eq_none fun d hd => ?_
    obtain ⟨_, ⟨hd, -⟩, _, _, rfl, ⟨_, s, rfl, rfl, -⟩, -⟩ := takes_of_mem_ends hd
    obtain ⟨x, t, rfl⟩ := List.exists_cons_of_ne_nil hne
    rw [hrest] at hd
    exact absurd (List.cons.inj hd).1 (ht x List.mem_cons_self).2
  cases clause with
  | star => exact hline (by decide) (by decide) hrest hnext
  | line entries =>
      have hentries : ∀ e ∈ entries, e.IsProper IsModule := fun e he => (h.2 e he).module
      refine hline (Entry.trim_texts h.1 hentries).2 ?_ hrest hnext
      refine Entry.forall_mem_texts hentries (fun x hx =>
        ⟨isStatementChar_of_isDottedChar hx, ?_⟩) (by decide)
        (by decide)
      rintro rfl
      exact absurd hx (by decide)
  | spread entries comma =>
      obtain ⟨hne, hentries, hcomma⟩ := h
      have hplaced : Clause.IsPlaced entries comma :=
        ⟨hne, fun x hx => (hentries x hx).1, fun x hx => (hentries x hx).2, hcomma⟩
      exact first_listed (Clause.notMem_body hplaced (by decide) (by decide) (by decide))
        hrest hnext

theorem first_inlineSpace (hrest : c.rest = ' ' :: t)
    (hstop : ∀ x ∈ t.head?, isBlank x = false) (hnext : next (c.past [' '] t) = some r) :
    inlineSpace.first next c = some r := by
  refine first_many1 hrest (by decide) (List.forall_mem_nil _) (fun x hx => ?_) hnext
  exact Bool.eq_false_iff.2 fun h =>
    Bool.eq_false_iff.1 (hstop x hx) (isBlank_of_isInlineBlank h)

/-- The word of a line, without blanks before it and with a space behind. -/
theorem first_lead {word : String} (hbefore : ∀ x ∈ c.before, x = '\n')
    (hrest : c.rest = word.toList ++ ' ' :: t)
    (hword : ∀ x ∈ c.rest.head?, isInlineBlank x = false)
    (hstop : ∀ x ∈ t.head?, isBlank x = false)
    (hnext : next ((c.past word.toList (' ' :: t)).past [' '] t) = some r) :
    lineStart.first (inlineGap.first ((Pattern.word word).first (inlineSpace.first next)))
      c = some r := by
  have hspace := first_inlineSpace Cursor.past_rest hstop hnext
  exact first_lineStart hbefore (first_many_of_stop hword (first_word hrest hspace))

/-- A statement is read to the end of what its clause is read to. -/
theorem exists_first_of_clause {names : Text} (hpackage : IsPackage package)
    (hread : ∀ {c : Cursor} {next : Cursor → Option Cursor} {r : Cursor},
      c.rest = names ++ tail →
      next (c.past names tail) = some r → importedClause.first next c = some r)
    (hne : names ≠ []) (hhead : ∀ x ∈ names.head?, isBlank x = false)
    (hbefore : ∀ x ∈ c.before, x = '\n')
    (hrest : c.rest = "from ".toList ++ package ++ " import ".toList ++ names ++ tail) :
    ∃ d, fromImport.first some c = some d ∧
      c.Spans d ("from ".toList ++ package ++ " import ".toList ++ names) ∧
      (c.matchTo d).part .source = package ∧ (c.matchTo d).part .clause = names := by
  have hparts : c.rest = "from".toList ++ ' ' :: (package ++ ' ' :: ("import".toList ++
      ' ' :: (names ++ tail))) := by
    rw [hrest]
    simp
  have hword : ∀ x ∈ c.rest.head?, isInlineBlank x = false := by
    rw [hparts]
    rintro x ⟨⟩
    decide
  have hsource :
      ∀ x ∈ (package ++ ' ' :: ("import".toList ++ ' ' :: (names ++ tail))).head?,
        isBlank x = false := by
    rw [List.head?_append_of_ne_nil _ hpackage.ne_nil]
    exact fun x hx => isBlank_of_isDottedChar (hpackage.dotted x (List.mem_of_head? hx))
  have hnames : ∀ x ∈ (names ++ tail).head?, isBlank x = false := by
    rwa [List.head?_append_of_ne_nil _ hne]
  simp only [fromImport, first_append]
  apply Exists.intro
  constructor
  · apply first_lead hbefore hparts hword hsource
    rw [first_keep]
    apply first_packageName hpackage Cursor.past_rest (by rintro x ⟨⟩; decide)
    apply first_inlineSpace (Cursor.keeping_rest.trans Cursor.past_rest)
      (by rintro x ⟨⟩; decide)
    apply first_word Cursor.past_rest
    apply first_inlineSpace Cursor.past_rest hnames
    rw [first_keep]
    exact hread Cursor.past_rest rfl
  · refine ⟨⟨hrest, ?_⟩, part_of_lookup rfl (Cursor.spans_past Cursor.past_rest),
      part_of_lookup rfl (Cursor.spans_past Cursor.past_rest)⟩
    simp
    omega

theorem exists_first_fromImport (hpackage : IsPackage package) (hclause : clause.IsProper)
    (htail : EndsBlock tail) (hbefore : ∀ x ∈ c.before, x = '\n')
    (hrest : c.rest = (Statement.names package clause).text ++ tail) :
    ∃ d, fromImport.first some c = some d ∧
      c.Spans d (Statement.names package clause).text ∧
      (c.matchTo d).part .source = package ∧ (c.matchTo d).part .clause = clause.text :=
  exists_first_of_clause hpackage (first_importedClause hclause htail)
    (Clause.trim_text hclause).2
    (Clause.trim_text hclause).1.head hbefore hrest

theorem exists_first_plainImport
    (hentries : entries ≠ [] ∧ ∀ e ∈ entries, e.IsProper IsModule)
    (htail : EndsBlock tail) (hbefore : ∀ x ∈ c.before, x = '\n')
    (hrest : c.rest = (Statement.modules entries).text ++ tail) :
    ∃ d, plainImport.first some c = some d ∧ c.Spans d (Statement.modules entries).text ∧
      (c.matchTo d).part .clause = join ", ".toList (entries.map Entry.text) := by
  obtain ⟨htrim, hne⟩ := Entry.trim_texts hentries.1 hentries.2
  have hchars :=
    Entry.forall_mem_texts hentries.2 (fun _ =>
      isStatementChar_of_isDottedChar) (by decide)
    (by decide)
  have hparts : c.rest = "import".toList ++ ' ' ::
      (join ", ".toList (entries.map Entry.text) ++ tail) := by
    rw [hrest, Statement.text_modules]
    simp
  have hword : ∀ x ∈ c.rest.head?, isInlineBlank x = false := by
    rw [hparts]
    rintro x ⟨⟩
    decide
  have hmodules : ∀ x ∈ (join ", ".toList (entries.map Entry.text) ++ tail).head?,
      isBlank x = false := by
    rw [List.head?_append_of_ne_nil _ hne]
    exact htrim.head
  simp only [plainImport, first_append]
  apply Exists.intro
  constructor
  · apply first_lead hbefore hparts hword hmodules
    rw [first_keep]
    exact first_statement hne hchars htail Cursor.past_rest rfl
  · refine ⟨⟨hrest, ?_⟩, part_of_lookup rfl (Cursor.spans_past Cursor.past_rest)⟩
    rw [Statement.text_modules]
    simp
    omega

end Patterns

/-! ## Blocks -/

section Blocks

variable {c : Cursor} {tail : Text} {s : Statement} {statements : List Statement}
  {ended : Bool} {w : Workspace} {root file : Text}

/-- A word that a line begins with is one of its words. -/
theorem mem_fields_of_begins {word t : Text} (h : Begins word t) (hne : word ≠ [])
    (hword : ∀ y ∈ word, isWord y = true) : word ∈ fields (fun y => !isWord y) t := by
  obtain ⟨g, b, x, rfl, hg, hb⟩ := h
  have hseparates {y : Char} (hy : isInlineBlank y = true) : (!isWord y) = true := by
    cases hword : isWord y with
    | false => rfl
    | true =>
        exact absurd (isBlank_of_isInlineBlank hy) (by simp [isBlank_of_isWord hword])
  have hstop : ∀ y ∈ (b :: x).head?, (!isWord y) = true := by
    rintro y ⟨⟩
    exact hseparates hb
  exact mem_fields_between (fun y hy => by rw [hword y hy]; rfl) hne
    (fun y hy => hseparates (hg y (List.mem_of_getLast? hy))) hstop

/-- Names stand on the lines of their statement, not the word that modules are imported
by. -/
theorem not_begins_names {package u v : Text} {clause : Clause}
    (hpackage : IsPackage package) (hclause : clause.IsProper)
    (htext : (Statement.names package clause).text = u ++ '\n' :: v) :
    ¬ Begins "import".toList v := by
  intro hbegins
  have hhead : '\n' ∉ "from ".toList ++ package ++ " import ".toList := by
    simp only [List.mem_append, not_or]
    exact
      ⟨⟨by decide, fun hmem => absurd (hpackage.dotted _ hmem) (by decide)⟩, by decide⟩
  obtain ⟨r, hr⟩ : ∃ r, clause.text = r ++ '\n' :: v := by
    rcases List.append_eq_append_iff.1 htext with ⟨r, -, hr⟩ | ⟨r, hu, hr⟩
    · exact ⟨r, hr⟩
    · cases r with
      | nil => exact ⟨[], hr.symm⟩
      | cons y r =>
          obtain ⟨rfl, -⟩ := List.cons.inj hr
          exact absurd (by rw [hu]; simp) hhead
  refine Clause.notMem_fields hclause ?_
  rw [hr, fields_append_cons (by decide)]
  exact List.mem_append_right _ (mem_fields_of_begins hbegins (by decide) (by decide))

theorem notMem_break_modules {entries : List Entry}
    (h : ∀ e ∈ entries, e.IsProper IsModule) :
    '\n' ∉ (Statement.modules entries).text := by
  have htexts : '\n' ∉ join ", ".toList (entries.map Entry.text) := fun hmem =>
    Entry.forall_mem_texts (P := (· ≠ '\n')) h
      (by rintro _ hc rfl; exact absurd hc (by decide)) (by decide)
      (by decide) _ hmem rfl
  show '\n' ∉ "import ".toList ++ _
  exact fun hmem => (List.mem_append.1 hmem).elim (by decide) htexts

theorem foundFrom_fromImport (h : s.IsProper) (hrest : c.rest = s.text ++ tail)
    (hbefore : ∀ x ∈ c.before, x = '\n') (htail : EndsBlock tail) :
    ∃ ms, fromImport.foundFrom c = ms ++ fromImport.foundFrom (c.past s.text tail) ∧
      match s with
      | .modules _ => ms = []
      | .names package clause =>
          ∃ m, ms = [m] ∧ m.start = c.offset ∧ m.part .source = package ∧
          m.part .clause = clause.text := by
  cases s with
  | modules entries =>
      refine ⟨[], ?_, rfl⟩
      refine foundFrom_of_leads leads_fromImport (by decide) htail hrest
        (not_begins (by decide) (by decide))
        fun u v huv => ?_
      exact absurd (by rw [huv]; simp) (notMem_break_modules h.2)
  | names package clause =>
      obtain ⟨d, hfirst, hspan, hsource, hclause⟩ :=
        @exists_first_fromImport { c with kept := [] } package tail clause h.1 h.2
          htail hbefore hrest
      have hfound := foundFrom_of_first hrest (List.cons_ne_nil _ _) hfirst hspan
      exact ⟨[_], hfound, _, rfl, rfl, hsource, hclause⟩

theorem foundFrom_plainImport (h : s.IsProper) (hrest : c.rest = s.text ++ tail)
    (hbefore : ∀ x ∈ c.before, x = '\n') (htail : EndsBlock tail) :
    ∃ ms, plainImport.foundFrom c = ms ++ plainImport.foundFrom (c.past s.text tail) ∧
      match s with
      | .modules entries => ∃ m, ms = [m] ∧ m.start = c.offset ∧
          m.part .clause = join ", ".toList (entries.map Entry.text)
      | .names _ _ => ms = [] := by
  cases s with
  | modules entries =>
      obtain ⟨d, hfirst, hspan, hclause⟩ :=
        @exists_first_plainImport { c with kept := [] } tail entries h htail hbefore hrest
      have hfound := foundFrom_of_first hrest (List.cons_ne_nil _ _) hfirst hspan
      exact ⟨[_], hfound, _, rfl, rfl, hclause⟩
  | names package clause =>
      obtain ⟨hpackage, hclause⟩ := h
      refine ⟨[], ?_, rfl⟩
      exact foundFrom_of_leads leads_plainImport (by decide) htail hrest
        (not_begins (by decide) (by decide))
        fun u v huv => not_begins_names hpackage hclause huv

end Blocks

end ImpactGraph.Rules.Python
