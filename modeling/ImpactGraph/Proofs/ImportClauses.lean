import ImpactGraph.Proofs.TextParts
import ImpactGraph.Rules.JavaScript

/-!
# Clauses of import statements

The grammar of what stands between `import` and `from`: a name, a star with a
name, a list in braces, or a name before one of the other two. `Clause.text`
prints a clause and `Clause.imports` says what it binds; `importFindings_text`
says that the rule finds just that in the printed text. A name holds no blank,
comma, star or brace, so every separator in a printed clause was put there by
the printer, and a cut finds the first of them.
-/

namespace ImpactGraph.Rules.JavaScript

open Text

/-! ## The grammar -/

/-- A name that a statement can bind on its line. -/
def IsLocal (name : Text) : Prop := isIdentifier name = true ∧ '\n' ∉ name

/-- An entry of a list in braces. -/
structure Entry where
  imported : Text
  renamed : Option Text
  typeOnly : Bool
  deriving DecidableEq, Repr

/-- What an import statement binds. -/
inductive Clause where
  | name (typeOnly : Bool) (bound : Text)
  | whole (bound : Text)
  | list (typeOnly : Bool) (entries : List Entry)
  | nameAndList (bound : Text) (entries : List Entry)
  | nameAndWhole (bound star : Text)
  deriving DecidableEq, Repr

namespace Entry

/-- The entry without the word that marks it. -/
def body (e : Entry) : Text :=
  match e.renamed with
  | none => e.imported
  | some renamed => e.imported ++ " as ".toList ++ renamed

def text (e : Entry) : Text := if e.typeOnly then "type ".toList ++ e.body else e.body

/-- Entries whose names can be bound. -/
structure HasNames (e : Entry) : Prop where
  imported : IsLocal e.imported
  renamed : ∀ name ∈ e.renamed, IsLocal name

/-- Entries that can be told apart: `type as x` would read as a type called `as`. -/
structure IsProper (e : Entry) : Prop where
  imported : IsLocal e.imported
  renamed : ∀ name ∈ e.renamed, IsLocal name
  bare : e.typeOnly = false → e.imported = "type".toList → e.renamed = none

def binding (site : Site) (typeOnly : Bool) (e : Entry) : Import where
  symbol := e.imported
  target := site.target
  kind := if typeOnly || e.typeOnly then .typeOnly else .named
  source := site.source
  line := site.line
  renamed := if e.renamed = some e.imported then none else e.renamed

end Entry

namespace Clause

/-- A list in braces. -/
def block (entries : List Entry) : Text :=
  '{' :: (join ", ".toList (entries.map Entry.text) ++ ['}'])

def text : Clause → Text
  | name _ bound => bound
  | whole bound => "* as ".toList ++ bound
  | list _ entries => block entries
  | nameAndList bound entries => bound ++ ", ".toList ++ block entries
  | nameAndWhole bound star => bound ++ ", * as ".toList ++ star

section Printed

variable (typeOnly : Bool) (bound star : Text) (entries : List Entry)

@[simp]
theorem text_name : (name typeOnly bound).text = bound := rfl

@[simp]
theorem text_whole : (whole bound).text = "* as ".toList ++ bound := rfl

@[simp]
theorem text_list : (list typeOnly entries).text = block entries := rfl

@[simp]
theorem text_nameAndList : (nameAndList bound entries).text = bound ++ ", ".toList ++
    block entries :=
  rfl

@[simp]
theorem text_nameAndWhole :
    (nameAndWhole bound star).text = bound ++ ", * as ".toList ++ star := rfl

end Printed

/-- Whether the statement is marked as one of types only. -/
def typeOnly : Clause → Bool
  | name typeOnly _ | list typeOnly _ => typeOnly
  | whole _ | nameAndList _ _ | nameAndWhole _ _ => false

def IsProper : Clause → Prop
  | name _ bound | whole bound => IsLocal bound
  | list _ entries => ∀ e ∈ entries, e.IsProper
  | nameAndList bound entries => IsLocal bound ∧ ∀ e ∈ entries, e.IsProper
  | nameAndWhole bound star => IsLocal bound ∧ IsLocal star

/-- The import of one name at a site. -/
def single (site : Site) (kind : ImportKind) (bound : Text) : Import :=
  { symbol := bound, target := site.target, kind := kind, source := site.source,
    line := site.line }

/-- The imports that a clause stands for, in the order in which it is written. -/
def imports (site : Site) : Clause → List Import
  | name typeOnly bound => [single site (if typeOnly then .typeOnly else .default) bound]
  | whole bound => [single site .whole bound]
  | list typeOnly entries => entries.map (Entry.binding site typeOnly)
  | nameAndList bound entries =>
    single site .default bound :: entries.map (Entry.binding site false)
  | nameAndWhole bound star => [single site .default bound, single site .whole star]

end Clause

/-! ## Names -/

namespace IsLocal

variable {name : Text}

theorem part (h : IsLocal name) : ∀ c ∈ name, isIdentifierPart c = true := by
  obtain ⟨c, rest, rfl, -, hall⟩ := exists_of_isIdentifier h.1 h.2
  exact hall

theorem ne_nil (h : IsLocal name) : name ≠ [] := by
  obtain ⟨c, rest, rfl, -⟩ := exists_of_isIdentifier h.1 h.2
  exact List.cons_ne_nil c rest

theorem notMem (h : IsLocal name) {c : Char}
    (hc : isIdentifierPart c = false) : c ∉ name :=
  fun hmem => Bool.eq_false_iff.1 hc (h.part c hmem)

theorem notBlank (h : IsLocal name) : ∀ c ∈ name, isBlank c = false :=
  fun c hc => isBlank_of_isIdentifierPart (h.part c hc)

theorem trim (h : IsLocal name) : name.IsTrim := .of_forall h.notBlank

theorem last_ne (h : IsLocal name) {x : Char} (hx : isIdentifierPart x = false) :
    ∀ c ∈ name.getLast?, decide (c = x) = false := by
  intro c hc
  refine decide_eq_false fun hcx => h.notMem hx ?_
  exact hcx ▸ List.mem_of_getLast? hc

theorem head_ne (h : IsLocal name) {x : Char} (hx : isIdentifierPart x = false)
    (rest : Text) : startsWith (name ++ rest) [x] = false := by
  obtain ⟨c, more, rfl, -, hall⟩ := exists_of_isIdentifier h.1 h.2
  have hne : (x == c) = false := beq_eq_false_iff_ne.2 fun hxc =>
    Bool.eq_false_iff.1 hx (hxc ▸ hall c List.mem_cons_self)
  rw [startsWith, List.cons_append, List.isPrefixOf_cons_cons, hne, Bool.false_and]

end IsLocal

/-! ## Entries -/

namespace Entry

variable {e : Entry} {entries : List Entry}

theorem IsProper.names (h : e.IsProper) : e.HasNames := ⟨h.imported, h.renamed⟩

theorem trim_body (h : e.HasNames) : e.body.IsTrim ∧ e.body ≠ [] := by
  unfold body
  split
  · exact ⟨h.imported.trim, h.imported.ne_nil⟩
  · next renamed hrenamed =>
      have hlocal := h.renamed renamed hrenamed
      refine ⟨h.imported.trim.between " as ".toList hlocal.trim h.imported.ne_nil
        hlocal.ne_nil, ?_⟩
      simp [h.imported.ne_nil]

theorem trim_text (h : e.HasNames) : e.text.IsTrim ∧ e.text ≠ [] := by
  obtain ⟨hbody, hne⟩ := trim_body h
  unfold text
  split
  · have htype : Text.IsTrim "type".toList := ⟨by decide, by decide⟩
    exact ⟨htype.between [' '] hbody (by decide) hne, by simp⟩
  · exact ⟨hbody, hne⟩

theorem forall_mem_text {P : Char → Prop} (h : e.HasNames)
    (hpart : ∀ c, isIdentifierPart c = true → P c) (hspace : P ' ') :
    ∀ c ∈ e.text, P c := by
  have hbody : ∀ c ∈ e.body, P c := by
    have himported := fun c hc => hpart c (h.imported.part c hc)
    unfold body
    split
    · exact himported
    · next renamed hrenamed =>
        have has : ∀ c ∈ " as ".toList, P c := by
          simp [hspace, hpart 'a' (by decide), hpart 's' (by decide)]
        have hlocal := fun c hc => hpart c ((h.renamed renamed hrenamed).part c hc)
        exact List.forall_mem_append.2 ⟨List.forall_mem_append.2 ⟨himported, has⟩, hlocal⟩
  have htype : ∀ c ∈ "type ".toList, P c := by
    simp [hspace, hpart 't' (by decide), hpart 'y' (by decide), hpart 'p' (by decide),
      hpart 'e' (by decide)]
  unfold text
  split
  · exact List.forall_mem_append.2 ⟨htype, hbody⟩
  · exact hbody

theorem notMem_text (h : e.HasNames) {x : Char} (hx : isIdentifierPart x = false)
    (hspace : x ≠ ' ') : x ∉ e.text := by
  intro hmem
  refine forall_mem_text (P := (x ≠ ·)) h (fun c hc hxc => ?_) hspace x hmem rfl
  exact Bool.eq_false_iff.1 hx (hxc ▸ hc)

/-- Only an entry that is marked starts with the word that marks it. -/
theorem startsWith_type (h : e.IsProper) (hplain : e.typeOnly = false) :
    startsWith e.body "type ".toList = false := by
  refine Bool.eq_false_iff.2 fun hstart => ?_
  obtain ⟨rest, hrest⟩ := startsWith_iff.1 hstart
  have htype : ∀ c ∈ "type".toList, isBlank c = false := by decide
  cases hrenamed : e.renamed with
  | none =>
      have himported : "type ".toList ++ rest = e.imported := by
        rwa [body, hrenamed] at hrest
      exact h.imported.notMem (by decide : isIdentifierPart ' ' = false)
        (by simp [← himported])
  | some renamed =>
      rw [body, hrenamed] at hrest
      have hcut : "type".toList ++ ' ' :: rest = e.imported ++ ' ' ::
          ("as ".toList ++ renamed) := by
        simpa using hrest
      obtain ⟨hword, -, -⟩ :=
        eq_of_first htype h.imported.notBlank (by decide) (by decide) hcut
      exact absurd (h.bare hplain hword.symm) (by simp [hrenamed])

/-- The word that marks an entry is told from its name. -/
theorem unmark_text (h : e.IsProper) :
    startsWith e.text "type ".toList = e.typeOnly ∧
      (if e.typeOnly then strip (e.text.drop 5) else e.text) = e.body := by
  unfold text
  cases htype : e.typeOnly with
  | false => exact ⟨startsWith_type h htype, rfl⟩
  | true =>
      exact ⟨startsWith_iff.2 (List.prefix_append _ _), strip_eq (trim_body h.names).1⟩

/-- The two names of an entry are told apart. -/
theorem cut_body (h : e.HasNames) :
    strip (before " as ".toList e.body) = e.imported ∧
      strip (after " as ".toList e.body) = e.renamed.getD [] := by
  have hno := h.imported.notMem (by decide : isIdentifierPart ' ' = false)
  have hstrip := strip_eq h.imported.trim
  unfold body
  split
  · next hnone =>
      have hbefore : before " as ".toList e.imported = e.imported := before_of_notMem hno
      have hafter : after " as ".toList e.imported = [] := after_of_notMem hno
      rw [hbefore, hafter, hnone]
      exact ⟨hstrip, rfl⟩
  · next renamed hsome =>
      have hbefore :
          before " as ".toList (e.imported ++ " as ".toList ++ renamed) = e.imported :=
        before_append hno
      have hafter :
          after " as ".toList (e.imported ++ " as ".toList ++ renamed) = renamed :=
        after_append hno
      rw [hbefore, hafter, hsome]
      exact ⟨hstrip, strip_eq (h.renamed renamed hsome).trim⟩

theorem ofText?_text (h : e.IsProper) :
    Specifier.ofText? e.text =
      some ⟨e.imported, e.renamed.getD e.imported, e.typeOnly⟩ := by
  obtain ⟨hstart, hunmark⟩ := unmark_text h
  obtain ⟨himported, hrenamed⟩ := cut_body h.names
  have hname : (if e.renamed.getD [] = [] then e.imported else e.renamed.getD []) =
      e.renamed.getD e.imported := by
    cases hsome : e.renamed with
    | none => rfl
    | some renamed => exact if_neg (h.renamed renamed hsome).ne_nil
  unfold Specifier.ofText?
  simp only [hstart, hunmark, himported, hrenamed, hname, h.imported.1,
    Bool.true_or, if_true]

theorem specifiers_join (h : ∀ e ∈ entries, e.IsProper) :
    specifiers (join ", ".toList (entries.map text)) =
      entries.map fun e => ⟨e.imported, e.renamed.getD e.imported, e.typeOnly⟩ := by
  have hnames : names (join ", ".toList (entries.map text)) = entries.map text := by
    refine names_join_space (fun piece hpiece => ?_) fun piece hpiece => ?_
    · obtain ⟨e, he, rfl⟩ := List.mem_map.1 hpiece
      exact notMem_text (h e he).names (by decide) (by decide)
    · obtain ⟨e, he, rfl⟩ := List.mem_map.1 hpiece
      exact trim_text (h e he).names
  rw [specifiers, hnames]
  clear hnames
  induction entries with
  | nil => rfl
  | cons e entries ih =>
      obtain ⟨he, hentries⟩ := List.forall_mem_cons.1 h
      rw [List.map_cons, List.filterMap_cons, ofText?_text he, ih hentries, List.map_cons]

theorem bring_eq (site : Site) (typeOnly : Bool) (e : Entry) :
    site.bring e.imported (if typeOnly || e.typeOnly then .typeOnly else .named)
        (some (e.renamed.getD e.imported)) = .imports (e.binding site typeOnly) := by
  have hrenamed : (some (e.renamed.getD e.imported)).filter (· ≠ e.imported) =
      if e.renamed = some e.imported then none else e.renamed := by
    cases e.renamed with
    | none => simp
    | some renamed => by_cases hsame : renamed = e.imported <;> simp [hsame]
  rw [Site.bring, hrenamed]
  rfl

end Entry

/-! ## Clauses -/

section Clauses

variable {site : Site} {bound star : Text} {entries : List Entry} {clause : Clause}

theorem headBindings_whole (typeOnly : Bool) (h : IsLocal bound) :
    headBindings site typeOnly ("* as ".toList ++ bound) =
      [.imports (Clause.single site .whole bound)] := by
  have hcut : after " as ".toList ("* as ".toList ++ bound) = bound :=
    @after_append ' ' "as ".toList ['*'] bound (by decide)
  have hstar : startsWith ("* as ".toList ++ bound) "*".toList = true :=
    startsWith_iff.2 (List.prefix_append ['*'] _)
  rw [headBindings, if_pos hstar]
  simp only [hcut, strip_eq h.trim]
  rw [if_pos h.1]
  rfl

theorem headBindings_name (typeOnly : Bool) (h : IsLocal bound) :
    headBindings site typeOnly bound =
      [.imports
        (Clause.single site (if typeOnly then .typeOnly else .default) bound)] := by
  have hstar : ¬ startsWith bound "*".toList = true := by
    rw [← List.append_nil bound]
    exact Bool.eq_false_iff.1 (h.head_ne (by decide) [])
  have hno := h.notMem (by decide : isIdentifierPart ',' = false)
  have hbefore : before ",".toList bound = bound := before_of_notMem hno
  have hafter : after ",".toList bound = [] := after_of_notMem hno
  have hnone : startsWith (strip []) "*".toList = false := by decide
  rw [headBindings, if_neg hstar, if_neg h.ne_nil]
  simp only [hbefore, hafter, hnone, strip_eq h.trim, h.1, if_true, Bool.false_and]
  rfl

theorem headBindings_nameAndWhole (hbound : IsLocal bound) (hwhole : IsLocal star) :
    headBindings site false (bound ++ ", * as ".toList ++ star) =
      [.imports (Clause.single site .default bound),
        .imports (Clause.single site .whole star)] := by
  have hsplit : bound ++ ", * as ".toList ++ star = bound ++ [','] ++
      (" * as ".toList ++ star) := by
    simp
  have hhead : ¬ startsWith (bound ++ ", * as ".toList ++ star) "*".toList = true := by
    rw [List.append_assoc]
    exact Bool.eq_false_iff.1 (hbound.head_ne (by decide) _)
  have hno := hbound.notMem (by decide : isIdentifierPart ',' = false)
  have hbefore : before ",".toList (bound ++ ", * as ".toList ++ star) = bound := by
    rw [hsplit]
    exact before_append hno
  have hafter : strip (after ",".toList (bound ++ ", * as ".toList ++ star)) =
      "* as ".toList ++ star := by
    have hstars : Text.IsTrim ['*'] := ⟨by decide, by decide⟩
    have htrim : Text.IsTrim ("* as ".toList ++ star) :=
      hstars.between " as ".toList hwhole.trim (by decide) hwhole.ne_nil
    have hcut : after ",".toList (bound ++ [','] ++ (" * as ".toList ++ star)) =
        " * as ".toList ++ star :=
      after_append hno
    have hpad :=
      strip_pad htrim (by decide : ∀ c ∈ [' '], isBlank c = true) (List.forall_mem_nil _)
    rw [List.append_nil] at hpad
    rw [hsplit, hcut]
    exact hpad
  have hstar : startsWith ("* as ".toList ++ star) "*".toList = true :=
    startsWith_iff.2 (List.prefix_append ['*'] _)
  have hname : after " as ".toList ("* as ".toList ++ star) = star :=
    @after_append ' ' "as ".toList ['*'] star (by decide)
  rw [headBindings, if_neg hhead, if_neg (by simp)]
  simp only [hbefore, hafter, hstar, hname, strip_eq hbound.trim,
    strip_eq hwhole.trim, hbound.1, hwhole.1, if_true, Bool.true_and]
  rfl

/-- What stands before the braces, with the comma and the blanks that lead to them. -/
theorem head_of_pad {head pad : Text} (h : head.IsTrim)
    (hcomma : ∀ c ∈ head.getLast?, decide (c = ',') = false)
    (hpad : pad = [] ∨ pad = ", ".toList) :
    strip (dropWhileEnd (· = ',') (strip (head ++ pad))) = head := by
  rcases hpad with rfl | rfl
  · have hdrop := dropWhileEnd_pad (List.forall_mem_nil _) hcomma
    rw [List.append_nil] at hdrop
    rw [List.append_nil, strip_eq h, hdrop, strip_eq h]
  · have hstrip : strip (head ++ ", ".toList) = head ++ [','] := by
      cases head with
      | nil => decide
      | cons c head =>
          have hlast : Text.IsTrim [','] := ⟨by decide, by decide⟩
          have hmid := h.between [] hlast (List.cons_ne_nil c head) (by decide)
          have hpad :=
            strip_pad hmid (List.forall_mem_nil _)
              (by decide : ∀ c ∈ [' '], isBlank c = true)
          simpa using hpad
    rw [hstrip, dropWhileEnd_pad (by decide) hcomma, strip_eq h]

theorem clauseBindings_of_noList {head : Text} (typeOnly : Bool) (h : head.IsTrim)
    (hcomma : ∀ c ∈ head.getLast?, decide (c = ',') = false) (hbrace : '{' ∉ head) :
    clauseBindings site typeOnly head = headBindings site typeOnly head := by
  have hhead := head_of_pad h hcomma (.inl rfl)
  rw [List.append_nil] at hhead
  have hblock : cutLast ['}'] (after ['{'] head) = none := by
    rw [after_of_notMem hbrace]
    decide
  unfold clauseBindings
  simp only [before_of_notMem hbrace, hhead, hblock]
  exact List.append_nil _

theorem clauseBindings_of_list {head pad : Text} (typeOnly : Bool) (h : head.IsTrim)
    (hcomma : ∀ c ∈ head.getLast?, decide (c = ',') = false) (hbrace : '{' ∉ head)
    (hpad : pad = [] ∨ pad = ", ".toList) (hentries : ∀ e ∈ entries, e.IsProper) :
    clauseBindings site typeOnly (head ++ pad ++ Clause.block entries) =
      headBindings site typeOnly head ++ entries.map fun e =>
        .imports (e.binding site typeOnly) := by
  have hlead : '{' ∉ head ++ pad := by
    rcases hpad with rfl | rfl <;> simp [hbrace]
  have htext : head ++ pad ++ Clause.block entries =
      head ++ pad ++ ['{'] ++ (join ", ".toList (entries.map Entry.text) ++ ['}']) := by
    simp [Clause.block]
  unfold clauseBindings
  rw [htext]
  simp only [before_append hlead, after_append hlead, head_of_pad h hcomma hpad,
    cutLast_concat, Entry.specifiers_join hentries, List.map_map]
  exact congrArg _ (List.map_congr_left fun e _ => Entry.bring_eq site typeOnly e)

theorem clauseBindings_text (h : clause.IsProper) :
    clauseBindings site clause.typeOnly clause.text =
      (clause.imports site).map .imports := by
  have hcomma : isIdentifierPart ',' = false := by decide
  have hbrace : isIdentifierPart '{' = false := by decide
  cases clause with
  | name typeOnly bound =>
      have hbound : IsLocal bound := h
      rw [Clause.text_name, clauseBindings_of_noList _ hbound.trim (hbound.last_ne hcomma)
        (hbound.notMem hbrace), headBindings_name _ hbound]
      rfl
  | whole bound =>
      have hbound : IsLocal bound := h
      have hstar : Text.IsTrim ['*'] := ⟨by decide, by decide⟩
      have htrim : Text.IsTrim ("* as ".toList ++ bound) :=
        hstar.between " as ".toList hbound.trim (by decide) hbound.ne_nil
      have hlast := last_append hbound.ne_nil (hbound.last_ne hcomma)
      rw [Clause.text_whole, clauseBindings_of_noList _ htrim (hlast _)
        (by simp [hbound.notMem hbrace]), headBindings_whole _ hbound]
      rfl
  | list typeOnly entries =>
      have hentries : ∀ e ∈ entries, e.IsProper := h
      have hlist :=
        @clauseBindings_of_list site entries [] [] typeOnly ⟨by simp, by simp⟩ (by simp)
        (by simp) (.inl rfl) hentries
      rw [Clause.text_list, Clause.imports, List.map_map]
      exact hlist
  | nameAndList bound entries =>
      obtain ⟨hbound, hentries⟩ := h
      rw [Clause.text_nameAndList,
        clauseBindings_of_list _ hbound.trim (hbound.last_ne hcomma)
        (hbound.notMem hbrace) (.inr rfl) hentries, headBindings_name _ hbound,
        Clause.imports, List.map_cons, List.map_map]
      rfl
  | nameAndWhole bound star =>
      obtain ⟨hbound, hstar⟩ := h
      have htrim :=
        hbound.trim.between ", * as ".toList hstar.trim hbound.ne_nil hstar.ne_nil
      have hlast := last_append hstar.ne_nil (hstar.last_ne hcomma)
      rw [Clause.text_nameAndWhole, clauseBindings_of_noList _ htrim (hlast _)
        (by simp [hbound.notMem hbrace, hstar.notMem hbrace])]
      exact headBindings_nameAndWhole hbound hstar

theorem notMem_list (h : ∀ e ∈ entries, e.IsProper) {x : Char}
    (hx : isIdentifierPart x = false) (hsep : x ∉ ", ".toList) :
    x ∉ join ", ".toList (entries.map Entry.text) := by
  refine fun hmem =>
    forall_mem_join (P := (x ≠ ·)) (fun c hc hxc => hsep (hxc ▸ hc)) ?_ x hmem rfl
  intro piece hpiece c hc hxc
  obtain ⟨e, he, rfl⟩ := List.mem_map.1 hpiece
  refine Entry.notMem_text (h e he).names hx (fun hspace => hsep ?_) (hxc ▸ hc)
  rw [hspace]
  decide

/-- The braces of a clause balance. -/
theorem count_text (h : clause.IsProper) :
    clause.text.count '{' = clause.text.count '}' := by
  have hname {bound : Text} (hbound : IsLocal bound) : bound.count '{' = 0 ∧
      bound.count '}' = 0 :=
    ⟨List.count_eq_zero.2 (hbound.notMem (by decide)),
      List.count_eq_zero.2 (hbound.notMem (by decide))⟩
  have hblock {entries : List Entry} (hentries : ∀ e ∈ entries, e.IsProper) :
      (Clause.block entries).count '{' = 1 ∧ (Clause.block entries).count '}' = 1 := by
    have hopen :=
      List.count_eq_zero.2
        (notMem_list hentries (by decide : isIdentifierPart '{' = false) (by decide))
    have hclose :=
      List.count_eq_zero.2
        (notMem_list hentries (by decide : isIdentifierPart '}' = false) (by decide))
    simp only [Clause.block, List.count_cons, List.count_append, hopen, hclose]
    decide
  cases clause with
  | name typeOnly bound =>
      obtain ⟨hopen, hclose⟩ := hname h
      rw [Clause.text_name, hopen, hclose]
  | whole bound =>
      obtain ⟨hopen, hclose⟩ := hname h
      simp [hopen, hclose]
  | list typeOnly entries =>
      obtain ⟨hopen, hclose⟩ := hblock h
      rw [Clause.text_list, hopen, hclose]
  | nameAndList bound entries =>
      obtain ⟨hopen, hclose⟩ := hname h.1
      obtain ⟨hopens, hcloses⟩ := hblock h.2
      simp [List.count_append, hopen, hclose, hopens, hcloses]
  | nameAndWhole bound star =>
      obtain ⟨hopen, hclose⟩ := hname h.1
      obtain ⟨hopens, hcloses⟩ := hname h.2
      simp [List.count_append, hopen, hclose, hopens, hcloses]

/-- What the rule finds in a printed clause is what the clause binds, and the module it
comes from. -/
theorem importFindings_text (h : clause.IsProper) :
    importFindings site clause.typeOnly clause.text =
      (clause.imports site).map .imports ++ [.dependsOn site.target] := by
  rw [importFindings, if_neg (fun hne => hne (count_text h)), clauseBindings_text h]
  refine if_pos ?_
  rw [Bool.or_eq_true, decide_eq_true_eq]
  -- Only the empty list binds nothing, and then nothing but its braces is there.
  cases clause with
  | list typeOnly entries =>
      cases entries with
      | nil => exact .inr rfl
      | cons e entries => exact .inl (List.cons_ne_nil _ _)
  | _ => exact .inl (List.cons_ne_nil _ _)

/-! ## The characters of a clause -/

theorem isClauseChar_of_part {c : Char} (h : isIdentifierPart c = true) :
    isClauseChar c = true := by
  rcases Bool.or_eq_true_iff.1 h with h | h <;> simp [isClauseChar, h]

/-- Besides its names a clause holds blanks, commas, stars and braces. -/
theorem forall_mem_clause {P : Char → Prop} (h : clause.IsProper)
    (hpart : ∀ c, isIdentifierPart c = true → P c) (hspace : P ' ') (hcomma : P ',')
    (hstar : P '*') (hopen : P '{') (hclose : P '}') : ∀ c ∈ clause.text, P c := by
  have hname {bound : Text} (hbound : IsLocal bound) : ∀ c ∈ bound, P c :=
    fun c hc => hpart c (hbound.part c hc)
  have hsep : ∀ c ∈ ", ".toList, P c := by simp [hcomma, hspace]
  have has : ∀ c ∈ "* as ".toList, P c := by
    simp [hstar, hspace, hpart 'a' (by decide), hpart 's' (by decide)]
  have hblock {entries : List Entry} (hentries : ∀ e ∈ entries, e.IsProper) :
      ∀ c ∈ Clause.block entries, P c := by
    have hlist : ∀ c ∈ join ", ".toList (entries.map Entry.text), P c := by
      refine forall_mem_join hsep fun piece hpiece => ?_
      obtain ⟨e, he, rfl⟩ := List.mem_map.1 hpiece
      exact Entry.forall_mem_text (hentries e he).names hpart hspace
    exact List.forall_mem_cons.2
      ⟨hopen, List.forall_mem_append.2 ⟨hlist, by simpa using hclose⟩⟩
  cases clause with
  | name typeOnly bound => exact hname h
  | whole bound => exact List.forall_mem_append.2 ⟨has, hname h⟩
  | list typeOnly entries => exact hblock h
  | nameAndList bound entries =>
      exact List.forall_mem_append.2
        ⟨List.forall_mem_append.2 ⟨hname h.1, hsep⟩, hblock h.2⟩
  | nameAndWhole bound star =>
      have hmid : ∀ c ∈ ", * as ".toList, P c :=
        fun c hc => (List.forall_mem_append.2 ⟨hsep, has⟩) c hc
      exact List.forall_mem_append.2
        ⟨List.forall_mem_append.2 ⟨hname h.1, hmid⟩, hname h.2⟩

theorem isClauseChar_text (h : clause.IsProper) :
    ∀ c ∈ clause.text, isClauseChar c = true :=
  forall_mem_clause h (fun _ => isClauseChar_of_part) (by decide) (by decide)
    (by decide) (by decide)
    (by decide)

theorem trim_text (h : clause.IsProper) : clause.text.IsTrim ∧ clause.text ≠ [] := by
  have hblock (entries : List Entry) : (Clause.block entries).IsTrim :=
    { head := fun c hc => Option.some.inj hc ▸ by decide
      last := last_append (List.cons_ne_nil '}' []) (by decide)
        ('{' :: join ", ".toList (entries.map Entry.text)) }
  have hstar : Text.IsTrim ['*'] := ⟨by decide, by decide⟩
  cases clause with
  | name typeOnly bound => exact ⟨IsLocal.trim h, IsLocal.ne_nil h⟩
  | whole bound =>
      have htrim :=
        hstar.between " as ".toList (IsLocal.trim h) (by decide) (IsLocal.ne_nil h)
      exact ⟨htrim, by simp⟩
  | list typeOnly entries => exact ⟨hblock entries, List.cons_ne_nil _ _⟩
  | nameAndList bound entries =>
      refine
        ⟨h.1.trim.between ", ".toList (hblock entries) h.1.ne_nil
          (List.cons_ne_nil _ _), ?_⟩
      simp
  | nameAndWhole bound star =>
      exact ⟨h.1.trim.between ", * as ".toList h.2.trim h.1.ne_nil h.2.ne_nil, by simp⟩

end Clauses

end ImpactGraph.Rules.JavaScript
