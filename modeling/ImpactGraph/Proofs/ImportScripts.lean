import Mathlib.Data.List.Basic
import ImpactGraph.Proofs.ImportLines
import ImpactGraph.Proofs.RecordedFindings

/-!
# Scripts made of import statements

A script of import statements, one on each line, gives back what was written:
the names of the statements with clauses, with the lines on which they stand,
and the modules of all statements, those for their effects last.

The seven passes of the rule are taken one by one. Two read the lines, as shown
before. A call of `require` would need a module behind a parenthesis, and every
module stands behind the lead of its statement. The four patterns for exports
need a blank behind `export`; where a script has one there, `export` is a name
and the next word is `as` or `from`, with which no export goes on.
-/

namespace ImpactGraph.Rules.JavaScript

open Text Pattern

/-! ## Exports -/

/-- A pattern for exports: it takes the word, blanks, and a text that one of some words
begins. -/
def Exports (p : Pattern) (words : List Text) : Prop :=
  ∀ s, p.Takes s → ∃ b g x, s = "export".toList ++ b :: (g ++ x) ∧ isBlank b = true ∧
    (∀ c ∈ g, isBlank c = true) ∧ ∃ w ∈ words, w <+: x

/-- The words that can follow a name of a statement. -/
def connectives : List Text := ["as ".toList, "from ".toList]

/-- A text that has blanks behind `export` only where a connective follows. -/
def ExportsNothing (t : Text) : Prop :=
  ∀ u b rest, t = u ++ "export".toList ++ b :: rest → isBlank b = true →
    ∃ w ∈ connectives, w <+: rest

section Exports

variable {p X : Pattern} {words : List Text} {t w rest : Text} {b : Char} {e : Entry}
  {entries : List Entry} {clause : Clause}

theorem exports_of_opens (hX : X.Opens words) :
    Exports (boundary ++ (word "export" ++ (space ++ X))) words := by
  rintro s ⟨_, _, rfl, rfl, _, _, rfl, rfl, _, x, rfl, ⟨_, g, rfl, ⟨b, rfl, hb⟩, hg⟩, hx⟩
  exact ⟨b, g, x, rfl, hb, hg, hX x hx⟩

theorem exports_reexport :
    Exports reexport ["type".toList, "*".toList, "\x7b".toList] := by
  intro s hs
  simp only [reexport, takes_append_assoc] at hs
  exact exports_of_opens (opens_of_openings (by rfl)) s hs

theorem exports_exportDeclaration : Exports exportDeclaration
    (["default", "declare", "abstract", "async", "function", "class", "const", "let",
      "var", "interface", "type", "enum", "namespace"].map String.toList) := by
  intro s hs
  simp only [exportDeclaration, takes_append_assoc] at hs
  exact exports_of_opens (opens_of_openings (by rfl)) s hs

theorem exports_exportList : Exports exportList ["type".toList, "\x7b".toList] := by
  intro s hs
  simp only [exportList, takes_append_assoc] at hs
  exact exports_of_opens (opens_of_openings (by rfl)) s hs

theorem exports_exportDefault : Exports exportDefault ["default".toList] := by
  intro s hs
  simp only [exportDefault, takes_append_assoc] at hs
  exact exports_of_opens (opens_of_openings (by rfl)) s hs

/-- No pattern for exports goes on with a connective. -/
theorem findAll_of_exports (hp : Exports p words)
    (hwords : ∀ w ∈ words, ∀ v ∈ connectives, ¬ w <+: v ∧ ¬ v <+: w)
    (ht : ExportsNothing t) : p.findAll t = [] := by
  refine findAll_eq_nil fun c ⟨u, hu⟩ d hd => ?_
  obtain ⟨s, ⟨hspan, -⟩, hs⟩ := takes_of_mem_ends hd
  obtain ⟨b, g, x, rfl, hb, hg, w, hw, hwx⟩ := hp s hs
  obtain ⟨v, hv, hstart⟩ := ht u b (g ++ x ++ d.rest) (by rw [← hu, hspan]; simp) hb
  cases g with
  | nil =>
      obtain ⟨hwv, hvw⟩ := hwords w hw v hv
      have hwhere : w <+: [] ++ x ++ d.rest := hwx.trans (List.prefix_append x d.rest)
      exact (List.prefix_or_prefix_of_prefix hwhere hstart).elim hwv hvw
  | cons y g =>
      obtain ⟨z, rest, hz, hblank⟩ : ∃ z rest, v = z :: rest ∧ isBlank z = false := by
        rcases List.mem_cons.1 hv with rfl | hv
        · exact ⟨'a', "s ".toList, rfl, by decide⟩
        · exact ⟨'f', "rom ".toList, List.mem_singleton.1 hv, by decide⟩
      obtain ⟨r, hr⟩ := hstart
      rw [hz] at hr
      exact absurd (hg y List.mem_cons_self) (by simp [← (List.cons.inj hr).1, hblank])

theorem exportsNothing_nil : ExportsNothing [] := fun u b rest h => absurd h (by simp)

/-- A word, a blank behind it, and more. -/
theorem ExportsNothing.cons (hw : ∀ c ∈ w, isBlank c = false) (hb : isBlank b = true)
    (hnext : "export".toList <:+ w → ∃ v ∈ connectives, v <+: rest)
    (hrest : ExportsNothing rest) : ExportsNothing (w ++ b :: rest) := by
  intro u c more h hc
  rcases clean_or_first isBlank u with hclean | ⟨y, x, z, rfl, hx, hy⟩
  · have hword : ∀ d ∈ u ++ "export".toList, isBlank d = false :=
      List.forall_mem_append.2 ⟨hclean, by decide⟩
    obtain ⟨rfl, -, rfl⟩ := eq_of_first hw hword hb hc h
    exact hnext (List.suffix_append u _)
  · rw [List.append_assoc, List.append_assoc] at h
    obtain ⟨-, -, hmore⟩ := eq_of_first hw hy hb hx h
    exact hrest z c more (by rw [hmore]; simp) hc

/-- A last word before the end of the text or of a line. -/
theorem exportsNothing_last (hw : ∀ c ∈ w, isBlank c = false)
    (hend : ¬ "export".toList <:+ w)
    (ht : t = [] ∨ ∃ rest, t = '\n' :: rest ∧ ExportsNothing rest) :
    ExportsNothing (w ++ t) := by
  rcases ht with rfl | ⟨rest, rfl, hrest⟩
  · intro u b rest h hb
    rw [List.append_nil] at h
    exact absurd hb (by simp [hw b (by simp [h])])
  · exact ExportsNothing.cons hw (by decide) (fun h => absurd h hend) hrest

theorem not_export_suffix (w : Text) {x : Char} (hx : x ≠ 't') :
    ¬ "export".toList <:+ w ++ [x] := by
  rintro ⟨u, hu⟩
  have hsplit : (u ++ "expor".toList) ++ ['t'] = w ++ [x] := by
    rw [List.append_assoc]
    exact hu
  exact hx (List.cons.inj (List.append_inj_right' hsplit rfl)).1.symm

/-- An entry of a list, with the sign behind it. -/
theorem exportsNothing_entry {pre : Text} {x : Char} (h : e.IsProper)
    (hpre : ∀ c ∈ pre, isBlank c = false) (hx : isBlank x = false) (hxt : x ≠ 't')
    (hrest : ExportsNothing rest) :
    ExportsNothing (pre ++ e.text ++ x :: ' ' :: rest) := by
  have hlast {pre w : Text} (hpre : ∀ c ∈ pre, isBlank c = false) (hw : IsLocal w) :
      ExportsNothing (pre ++ w ++ [x] ++ ' ' :: rest) := by
    refine ExportsNothing.cons ?_ (by decide) (fun h =>
      absurd h (not_export_suffix _ hxt)) hrest
    exact List.forall_mem_append.2 ⟨List.forall_mem_append.2 ⟨hpre, hw.notBlank⟩, by
      simpa using hx⟩
  have hbody {pre : Text} (hpre : ∀ c ∈ pre, isBlank c = false) :
      ExportsNothing (pre ++ e.body ++ x :: ' ' :: rest) := by
    cases hrenamed : e.renamed with
    | none =>
        have := hlast hpre h.imported
        simpa [Entry.body, hrenamed] using this
    | some renamed =>
        have hlocal :=
          @hlast [] renamed (List.forall_mem_nil _) (h.renamed renamed hrenamed)
        have has :
            ExportsNothing ("as".toList ++ ' ' ::
              ([] ++ renamed ++ [x] ++ ' ' :: rest)) :=
          ExportsNothing.cons (by decide) (by decide) (fun h =>
            absurd h (by decide)) hlocal
        have himported := ExportsNothing.cons
          (List.forall_mem_append.2 ⟨hpre, h.imported.notBlank⟩)
            (by decide : isBlank ' ' = true)
          (fun _ => ⟨"as ".toList, by decide, _, rfl⟩) has
        simpa [Entry.body, hrenamed] using himported
  cases htype : e.typeOnly with
  | false => simpa [Entry.text, htype] using hbody hpre
  | true =>
      have hmark : ∀ c ∈ pre ++ "typ".toList ++ ['e'], isBlank c = false :=
        List.forall_mem_append.2 ⟨List.forall_mem_append.2 ⟨hpre, by decide⟩, by decide⟩
      have hmarked := ExportsNothing.cons hmark (by decide : isBlank ' ' = true)
        (fun h => absurd h (not_export_suffix _ (by decide)))
          (hbody (List.forall_mem_nil _))
      simpa [Entry.text, htype] using hmarked

/-- A list in braces, with a blank behind it. -/
theorem exportsNothing_block {pre : Text} (h : ∀ e ∈ entries, e.IsProper)
    (hpre : ∀ c ∈ pre, isBlank c = false) (hrest : ExportsNothing rest) :
    ExportsNothing (pre ++ join ", ".toList (entries.map Entry.text) ++
      '}' :: ' ' :: rest) := by
  induction entries generalizing pre with
  | nil =>
      have hclose : ∀ c ∈ pre ++ ['}'], isBlank c = false :=
        List.forall_mem_append.2 ⟨hpre, by decide⟩
      have hword := ExportsNothing.cons hclose (by decide : isBlank ' ' = true)
        (fun h => absurd h (not_export_suffix _ (by decide))) hrest
      simpa [join] using hword
  | cons e entries ih =>
      obtain ⟨he, hentries⟩ := List.forall_mem_cons.1 h
      cases entries with
      | nil => exact exportsNothing_entry he hpre (by decide) (by decide) hrest
      | cons next entries =>
          have hmore := @ih [] hentries (List.forall_mem_nil _)
          have hentry :=
            exportsNothing_entry he hpre (by decide : isBlank ',' = false)
              (by decide) hmore
          have hjoin : join ", ".toList ((e :: next :: entries).map Entry.text) =
            e.text ++ (',' :: ' ' ::
              join ", ".toList ((next :: entries).map Entry.text)) :=
                List.append_assoc _ _ _
          rw [hjoin]
          simpa only [List.append_assoc, List.cons_append, List.nil_append] using hentry

theorem exportsNothing_clause (h : clause.IsProper) (hfrom : "from ".toList <+: rest)
    (hrest : ExportsNothing rest) : ExportsNothing (clause.text ++ ' ' :: rest) := by
  have hname {pre bound : Text} (hpre : ∀ c ∈ pre, isBlank c = false) (hbound :
      IsLocal bound) : ExportsNothing (pre ++ bound ++ ' ' :: rest) :=
    ExportsNothing.cons (List.forall_mem_append.2 ⟨hpre, hbound.notBlank⟩) (by decide)
      (fun _ => ⟨"from ".toList, by decide, hfrom⟩) hrest
  have hcomma {bound more : Text} (hbound : IsLocal bound) (hmore : ExportsNothing more) :
      ExportsNothing (bound ++ [','] ++ ' ' :: more) :=
    ExportsNothing.cons
      (List.forall_mem_append.2 ⟨hbound.notBlank, by decide⟩) (by decide)
      (fun h => absurd h (not_export_suffix _ (by decide))) hmore
  have hstar {bound : Text} (hbound : IsLocal bound) :
      ExportsNothing ("* as ".toList ++ bound ++ ' ' :: rest) := by
    have hbound := @hname [] bound (List.forall_mem_nil _) hbound
    have has : ExportsNothing ("as".toList ++ ' ' :: ([] ++ bound ++ ' ' :: rest)) :=
      ExportsNothing.cons (by decide) (by decide) (fun h => absurd h (by decide)) hbound
    have hword := ExportsNothing.cons (by decide : ∀ c ∈ ['*'], isBlank c = false)
      (by decide : isBlank ' ' = true) (fun h => absurd h (by decide)) has
    simpa using hword
  have hblock {entries : List Entry} (hentries : ∀ e ∈ entries, e.IsProper) :
      ExportsNothing (Clause.block entries ++ ' ' :: rest) := by
    have hentries :=
      exportsNothing_block hentries (by decide : ∀ c ∈ ['{'], isBlank c = false) hrest
    simpa [Clause.block] using hentries
  cases clause with
  | name typeOnly bound => exact @hname [] bound (List.forall_mem_nil _) h
  | whole bound => exact hstar h
  | list typeOnly entries => exact hblock h
  | nameAndList bound entries =>
      have hboth := hcomma h.1 (hblock h.2)
      simpa using hboth
  | nameAndWhole bound star =>
      have hboth := hcomma h.1 (hstar h.2)
      simpa using hboth

theorem exportsNothing_text {s : Statement} (h : s.IsProper)
    (ht : t = [] ∨ ∃ rest, t = '\n' :: rest ∧ ExportsNothing rest) :
    ExportsNothing (s.text ++ t) := by
  have hmodule : ExportsNothing ('\'' :: (s.source ++ ['\'']) ++ [';'] ++ t) := by
    refine exportsNothing_last ?_ (not_export_suffix _ (by decide)) ht
    refine List.forall_mem_append.2 ⟨List.forall_mem_cons.2 ⟨by decide, ?_⟩, by decide⟩
    exact List.forall_mem_append.2 ⟨fun c hc =>
      ((s.source_proper h).clean c hc).1, by decide⟩
  have himport {rest : Text} (hrest : ExportsNothing rest) :
      ExportsNothing ("import".toList ++ ' ' :: rest) :=
    ExportsNothing.cons (by decide) (by decide) (fun h => absurd h (by decide)) hrest
  cases s with
  | effects source =>
      have hline := himport hmodule
      simpa [Statement.text_eq, Statement.body_eq, Statement.lead_effects] using hline
  | brings clause source =>
      have hfrom :
          ExportsNothing ("from".toList ++ ' ' ::
            ('\'' :: (source ++ ['\'']) ++ [';'] ++ t)) :=
        ExportsNothing.cons (by decide) (by decide) (fun h =>
          absurd h (by decide)) hmodule
      have hclause := exportsNothing_clause h.1 ⟨_, rfl⟩ hfrom
      have hmark :
          ExportsNothing (clause.mark ++ (clause.text ++ ' ' :: ("from".toList ++ ' ' ::
            ('\'' :: (source ++ ['\'']) ++ [';'] ++ t)))) := by
        unfold Clause.mark
        split
        · have hword :=
            ExportsNothing.cons (by decide : ∀ c ∈ "type".toList, isBlank c = false)
            (by decide : isBlank ' ' = true) (fun h => absurd h (by decide)) hclause
          simpa using hword
        · exact hclause
      have hline := himport hmark
      simpa [Statement.text_eq, Statement.body_eq, Statement.lead_brings,
        Statement.source_brings] using hline

theorem exportsNothing_stack {ended : Bool} {statements : List Statement}
    (h : ∀ s ∈ statements, s.IsProper) :
    ExportsNothing (stack ended (statements.map Statement.text)) := by
  induction statements with
  | nil => exact exportsNothing_nil
  | cons s statements ih =>
      obtain ⟨hs, hstatements⟩ := List.forall_mem_cons.1 h
      rw [List.map_cons]
      rcases stack_cons ended s.text (statements.map Statement.text)
        with ⟨-, hstack⟩ | hstack
      · rw [hstack, ← List.append_nil s.text]
        exact exportsNothing_text hs (.inl rfl)
      · rw [hstack]
        exact exportsNothing_text hs (.inr ⟨_, rfl, ih hstatements⟩)

end Exports

/-! ## Calls of `require` -/

theorem lead_ends (s : Statement) :
    ∃ front y, s.lead = front ++ y :: [' '] ∧ isBlank y = false ∧ y ≠ '(' := by
  cases s with
  | effects source => exact ⟨"impor".toList, 't', rfl, by decide, by decide⟩
  | brings clause source =>
      refine ⟨"import ".toList ++ clause.mark ++ clause.text ++ " fro".toList, 'm',
        ?_, by decide, by decide⟩
      rw [Statement.lead_brings, List.append_assoc _ " fro".toList]
      rfl

theorem findAll_requireCall {ended : Bool} {statements : List Statement}
    (h : ∀ s ∈ statements, s.IsProper) :
    requireCall.findAll (stack ended (statements.map Statement.text)) = [] := by
  refine findAll_eq_nil fun c ⟨above, habove⟩ d hd => ?_
  obtain ⟨_, hclosed, -⟩ := mem_ends_append.1 hd
  obtain ⟨past, hpast, -⟩ := mem_ends_append.1 hclosed
  obtain ⟨e, he, hspecifier⟩ := mem_ends_append.1 hpast
  obtain ⟨x, ⟨hspan, -⟩, _, g, rfl, ⟨a, _, rfl, -, rfl⟩, hg⟩ := takes_of_mem_ends he
  obtain ⟨q, t, hq, ht, hquoted⟩ := quoted_of_mem_ends hspecifier
  have hplace : stack ended (statements.map Statement.text) =
      (above ++ (a ++ "(".toList ++ g)) ++ q :: (t ++ q :: past.rest) := by
    rw [← habove, hspan, hquoted]
    simp only [List.append_assoc]
  have hbreak : q ≠ '\n' := fun hq' => absurd hq (by rw [hq']; decide)
  obtain ⟨_, hmem, ahead, left, right, tail, hline, hne, htail, hbefore, hright⟩ :=
    exists_block_of_stack hplace hbreak
  obtain ⟨s, hs, rfl⟩ := List.mem_map.1 hmem
  have hlead :=
    lead_of_specifier (h s hs) hline hne htail List.not_mem_nil hq ht hright.symm
  obtain ⟨front, y, hfront, hy, hne'⟩ := lead_ends s
  rw [List.append_nil] at hlead
  rw [hlead, hfront] at hbefore
  have hends : (above ++ a) ++ '(' :: g = (ahead ++ front) ++ y :: [' '] := by
    simpa using hbefore
  exact hne' (eq_of_last_letter hg (by decide) (by decide) hy hends).2.1.symm

/-! ## Statements -/

namespace Statement

/-- The imports of a statement that stands on a line. -/
def imports (w : Workspace) (root file : Text) (s : Statement) (line : Nat) :
    List Import :=
  match s with
  | effects _ => []
  | brings clause source =>
    clause.imports ⟨source, Resolve.javascript w root file source, line⟩

/-- The module of a statement with a clause. -/
def broughtFrom? : Statement → Option Text
  | effects _ => none
  | brings _ source => some source

/-- The module of a statement for its effects. -/
def loaded? : Statement → Option Text
  | effects source => some source
  | brings _ _ => none

theorem notMem_break (s : Statement) (h : s.IsProper) : '\n' ∉ s.text := by
  have hsource : '\n' ∉ s.source :=
    fun hmem => (s.source_proper h).quoted.clean _ hmem |>.2 rfl
  have hlead : '\n' ∉ s.lead := by
    cases s with
    | effects source =>
        show '\n' ∉ "import ".toList
        decide
    | brings clause source =>
        have hclause : '\n' ∉ clause.text := fun hmem =>
          forall_mem_clause (P := (· ≠ '\n')) h.1 (fun c hc hbreak =>
            absurd hc (by rw [hbreak]; decide))
            (by decide) (by decide) (by decide) (by decide) (by decide) _ hmem rfl
        have hmark : '\n' ∉ clause.mark := by
          unfold Clause.mark
          split <;> decide
        rw [lead_brings]
        simp only [List.mem_append, not_or]
        exact ⟨⟨⟨by decide, hmark⟩, hclause⟩, by decide⟩
  simp [text_eq, body_eq, hlead, hsource]

end Statement

section Scripts

variable {w : Workspace} {root file : Text} {ended : Bool} {statements : List Statement}

/-- What the pass over imports with names finds for one statement. -/
def Statement.brought (w : Workspace) (root file : Text) (s : Statement) (line : Nat) :
    List Finding :=
  (s.imports w root file line).map .imports ++
    s.broughtFrom?.toList.map fun source =>
      .dependsOn (Resolve.javascript w root file source)

theorem flatMap_importFrom (h : ∀ s ∈ statements, s.IsProper) (script : Text)
    (hscript : script = stack ended (statements.map Statement.text)) :
    (importFrom.findAll script).flatMap (fun m =>
        importFindings ⟨m.part .source, Resolve.javascript w root file (m.part .source),
          lineAt script m.start⟩
          (m.part? .typeOnly).isSome (strip (m.part .clause))) =
      (statements.zipIdx 1).flatMap fun x => x.1.brought w root file x.2 := by
  rw [← numbered_eq_zipIdx fun s hs => s.notMem_break (h s hs)]
  subst hscript
  refine flatMap_findAll_stack
    (fun c hend => matchAt_of_opens opens_importFrom (not_import_of_endsBlock hend))
    fun s hs c tail hrest hbefore htail => ?_
  obtain ⟨ms, hms, hread⟩ := foundFrom_importFrom (h s hs) hrest hbefore htail
  refine ⟨ms, hms, ?_⟩
  cases s with
  | effects source =>
      obtain rfl : ms = [] := hread
      rfl
  | brings clause source =>
      obtain ⟨m, rfl, hstart, hsource, hclause, htype⟩ := hread
      have hproper : clause.IsProper := (h _ hs).1
      rw [List.flatMap_singleton, hstart, hsource, hclause, htype,
        strip_eq (trim_text hproper).1, importFindings_text hproper]
      rfl

theorem flatMap_zipIdx {α β : Type} (f : α → List β) (items : List α) (first : Nat) :
    (items.zipIdx first).flatMap (fun x => f x.1) = items.flatMap f := by
  have hfst := @List.flatMap_map _ _ _ Prod.fst f (items.zipIdx first)
  rw [List.zipIdx_map_fst] at hfst
  exact hfst.symm

theorem map_importBare (h : ∀ s ∈ statements, s.IsProper) :
    (importBare.findAll (stack ended (statements.map Statement.text))).map (fun m =>
        Finding.dependsOn (Resolve.javascript w root file (m.part .source))) =
      (statements.filterMap Statement.loaded?).map fun source =>
        .dependsOn (Resolve.javascript w root file source) := by
  have hlines := @flatMap_findAll_stack _ _ Statement.text ended importBare
    (fun m =>
      [Finding.dependsOn (Resolve.javascript w root file (m.part .source))]) statements
    (fun s _ => s.loaded?.toList.map fun source =>
      .dependsOn (Resolve.javascript w root file source))
    (fun c hend => matchAt_of_opens opens_importBare (not_import_of_endsBlock hend))
    fun s hs c tail hrest hbefore htail => ?_
  · rw [List.map_eq_flatMap, hlines, numbered_eq_zipIdx fun s hs =>
      s.notMem_break (h s hs), List.filterMap_eq_flatMap_toList, List.map_flatMap]
    exact flatMap_zipIdx (fun s : Statement => s.loaded?.toList.map fun source =>
      Finding.dependsOn (Resolve.javascript w root file source)) statements 1
  · obtain ⟨ms, hms, hread⟩ := foundFrom_importBare (h s hs) hrest hbefore htail
    refine ⟨ms, hms, ?_⟩
    cases s with
    | effects source =>
        obtain ⟨m, rfl, -, hsource⟩ := hread
        rw [List.flatMap_singleton, hsource]
        rfl
    | brings clause source =>
        obtain rfl : ms = [] := hread
        rfl

/-- What the rule finds in a script of import statements. -/
theorem findings_stack (h : ∀ s ∈ statements, s.IsProper) :
    findings w root file (stack ended (statements.map Statement.text)) =
      ((statements.zipIdx 1).flatMap fun x => x.1.brought w root file x.2) ++
        (statements.filterMap Statement.loaded?).map fun source =>
          .dependsOn (Resolve.javascript w root file source) := by
  have hnone := @exportsNothing_stack ended statements h
  unfold findings
  simp only [flatMap_importFrom h _ rfl, map_importBare h, findAll_requireCall h,
    findAll_of_exports exports_reexport (by decide) hnone,
    findAll_of_exports exports_exportDeclaration (by decide) hnone,
    findAll_of_exports exports_exportList (by decide) hnone,
    findAll_of_exports exports_exportDefault (by decide) hnone,
    List.flatMap_nil, List.map_nil, List.append_nil]

section Brought

variable (w root file) (s : Statement) (line : Nat)

theorem imports_brought :
    (s.brought w root file line).filterMap Finding.import? =
      s.imports w root file line := by
  rw [Statement.brought, List.filterMap_append, List.filterMap_map, List.filterMap_map]
  have hnone : s.broughtFrom?.toList.filterMap (Finding.import? ∘ fun source =>
      .dependsOn (Resolve.javascript w root file source)) = [] := by
    rw [List.filterMap_eq_nil_iff]
    exact fun _ _ => rfl
  have hsome : (s.imports w root file line).filterMap (Finding.import? ∘ .imports) =
      s.imports w root file line := List.filterMap_some
  rw [hnone, hsome, List.append_nil]

theorem targets_brought : (s.brought w root file line).filterMap Finding.target? =
    (s.broughtFrom?.map (Resolve.javascript w root file)).toList := by
  rw [Statement.brought, List.filterMap_append, List.filterMap_map, List.filterMap_map]
  have hnone : (s.imports w root file line).filterMap (Finding.target? ∘ .imports) =
      [] := by
    rw [List.filterMap_eq_nil_iff]
    exact fun _ _ => rfl
  rw [hnone, List.nil_append]
  cases s.broughtFrom? <;> rfl

theorem exports_brought :
    (s.brought w root file line).filterMap Finding.export? = [] := by
  rw [List.filterMap_eq_nil_iff]
  intro f hf
  rcases List.mem_append.1 hf with hf | hf
  · obtain ⟨i, -, rfl⟩ := List.mem_map.1 hf
    rfl
  · obtain ⟨source, -, rfl⟩ := List.mem_map.1 hf
    rfl

end Brought

section Read

variable (w root file) (h : ∀ s ∈ statements, s.IsProper)
include h

/-- What is read off the findings comes from the statements one by one, and then from the
modules that are loaded for their effects. -/
theorem filterMap_findings_stack {γ : Type} (read : Finding → Option γ) :
    (findings w root file (stack ended (statements.map Statement.text))).filterMap read =
      ((statements.zipIdx 1).flatMap fun x =>
        (x.1.brought w root file x.2).filterMap read) ++
        (statements.filterMap Statement.loaded?).filterMap fun source =>
          read (.dependsOn (Resolve.javascript w root file source)) := by
  rw [findings_stack h, List.filterMap_append, List.filterMap_flatMap, List.filterMap_map]
  rfl

theorem imports_findings_stack :
    (findings w root file (stack ended (statements.map Statement.text))).filterMap
      Finding.import? =
      (statements.zipIdx 1).flatMap fun x => x.1.imports w root file x.2 := by
  have hloaded : ((statements.filterMap Statement.loaded?).filterMap fun source =>
      Finding.import? (.dependsOn (Resolve.javascript w root file source))) = [] :=
    List.filterMap_eq_nil_iff.2 fun _ _ => rfl
  rw [filterMap_findings_stack w root file h, hloaded, List.append_nil]
  simp only [imports_brought]

theorem targets_findings_stack :
    (findings w root file (stack ended (statements.map Statement.text))).filterMap
      Finding.target? =
      (statements.filterMap Statement.broughtFrom? ++
        statements.filterMap Statement.loaded?).map (Resolve.javascript w root file) := by
  have hbrought : ((statements.zipIdx 1).flatMap fun x =>
      (x.1.broughtFrom?.map (Resolve.javascript w root file)).toList) =
      (statements.filterMap Statement.broughtFrom?).map
        (Resolve.javascript w root file) := by
    rw [flatMap_zipIdx fun s : Statement =>
      (s.broughtFrom?.map (Resolve.javascript w root file)).toList,
      ← List.filterMap_eq_flatMap_toList, List.map_filterMap]
  have hloaded : ((statements.filterMap Statement.loaded?).filterMap fun source =>
      Finding.target? (.dependsOn (Resolve.javascript w root file source))) =
      (statements.filterMap Statement.loaded?).map (Resolve.javascript w root file) :=
    congrFun List.filterMap_eq_map _
  rw [filterMap_findings_stack w root file h, hloaded, List.map_append, ← hbrought]
  simp only [targets_brought]

theorem exports_findings_stack :
    (findings w root file (stack ended (statements.map Statement.text))).filterMap
      Finding.export? = [] := by
  refine (filterMap_findings_stack w root file h _).trans
    (List.append_eq_nil_iff.2 ⟨?_, ?_⟩)
  · simp only [exports_brought, List.flatMap_eq_nil_iff, implies_true]
  · exact List.filterMap_eq_nil_iff.2 fun _ _ => rfl

end Read

/-- Import statements on lines of their own give back the names they bind, in order and
each with its line, and the modules they come from, those of the statements for effects
last. -/
theorem facts_of_statements (w : Workspace) (root file : Text) (language : Language)
    (ended : Bool) (statements : List Statement) (h : ∀ s ∈ statements, s.IsProper) :
    FileFacts.ofFindings file language
        (findings w root file (stack ended (statements.map Statement.text))) =
      { file := file
        language := some language
        exports := []
        imports := (statements.zipIdx 1).flatMap fun x => x.1.imports w root file x.2
        edges := distinct ((statements.filterMap Statement.broughtFrom? ++
          statements.filterMap Statement.loaded?).map (Resolve.javascript w root file))
            } := by
  rw [FileFacts.ofFindings_eq, imports_findings_stack w root file h,
    targets_findings_stack w root file h, exports_findings_stack w root file h]
  rfl

end Scripts

/-- Statements whose names are the words that statements are made of. -/
def fourStatements : List Statement := [
  .brings (.nameAndList "from".toList
    [⟨"as".toList, some "as".toList, true⟩, ⟨"default".toList, some "x".toList, false⟩])
      "m".toList,
  .brings (.name true "type".toList) "./b".toList,
  .effects "m".toList,
  .brings (.nameAndWhole "type".toList "as".toList) "import".toList]

theorem proper_fourStatements : ∀ s ∈ fourStatements, s.IsProper := by
  have hlocal : ∀ name ∈ ["from".toList, "as".toList, "default".toList, "x".toList,
    "type".toList],
      IsLocal name := by
    unfold IsLocal
    decide
  have hsource : ∀ source ∈ ["m".toList, "./b".toList, "import".toList],
      IsSource source :=
    fun source hsource => ⟨by revert source; decide, by revert source; decide⟩
  have hentry (imported renamed : Text) (typeOnly : Bool) (himported : IsLocal imported)
      (hrenamed : IsLocal renamed) (hbare : imported ≠ "type".toList) :
      (⟨imported, some renamed, typeOnly⟩ : Entry).IsProper :=
    ⟨himported, fun _ h => Option.some.inj h ▸ hrenamed, fun _ h => absurd h hbare⟩
  simp only [fourStatements, List.forall_mem_cons, Statement.IsProper, Clause.IsProper]
  refine ⟨⟨⟨hlocal _ (by decide), ?_, ?_, List.forall_mem_nil _⟩, hsource _ (by decide)⟩,
    ⟨hlocal _ (by decide), hsource _ (by decide)⟩, hsource _ (by decide),
    ⟨⟨hlocal _ (by decide), hlocal _ (by decide)⟩, hsource _ (by decide)⟩,
    List.forall_mem_nil _⟩
  · exact hentry _ _ _ (hlocal _ (by decide)) (hlocal _ (by decide)) (by decide)
  · exact hentry _ _ _ (hlocal _ (by decide)) (hlocal _ (by decide)) (by decide)

/-- A file system without files. -/
def noFiles : Workspace where
  tree := .directory []
  cwd := "/p".toList

theorem facts_of_fourStatements :
    FileFacts.ofFindings "/p/a.ts".toList .typescript
        (findings noFiles "/p".toList "/p/a.ts".toList
          ("import from, \x7btype as as as, default as x\x7d from 'm';\n" ++
            "import type type from './b';\nimport 'm';\n" ++
            "import type, * as as from 'import';\n").toList) =
      { file := "/p/a.ts".toList
        language := some .typescript
        exports := []
        imports := [
          ⟨"from".toList, "/p/node_modules/m".toList, .default, "m".toList, 1, none⟩,
          ⟨"as".toList, "/p/node_modules/m".toList, .typeOnly, "m".toList, 1, none⟩,
          ⟨"default".toList, "/p/node_modules/m".toList, .named, "m".toList, 1,
            some "x".toList⟩,
          ⟨"type".toList, "/p/b".toList, .typeOnly, "./b".toList, 2, none⟩,
          ⟨"type".toList, "/p/node_modules/import".toList, .default,
            "import".toList, 4, none⟩,
          ⟨"as".toList, "/p/node_modules/import".toList, .whole,
            "import".toList, 4, none⟩]
        edges := ["/p/node_modules/m".toList, "/p/b".toList,
          "/p/node_modules/import".toList] } := by
  have hfacts := facts_of_statements noFiles "/p".toList "/p/a.ts".toList .typescript true
    fourStatements proper_fourStatements
  have hscript : stack true (fourStatements.map Statement.text) =
      ("import from, \x7btype as as as, default as x\x7d from 'm';\n" ++
        "import type type from './b';\nimport 'm';\n" ++
        "import type, * as as from 'import';\n").toList := by
    decide +kernel
  rw [hscript] at hfacts
  exact hfacts.trans (by decide +kernel)

end ImpactGraph.Rules.JavaScript
