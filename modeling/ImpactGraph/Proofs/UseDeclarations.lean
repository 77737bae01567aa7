import ImpactGraph.Proofs.PatternSearch
import ImpactGraph.Proofs.RecordedFindings
import ImpactGraph.Proofs.CratePaths
import ImpactGraph.Proofs.UseTrees

/-!
# What a use declaration finds

Three passes read a file of Rust, and a use declaration is for one of them. The others
look for `pub` and `mod` at the beginning of a line, and a clause may go over many lines;
what keeps them out is that neither word is a name in it (`findAll_eq_nil_of_names`). So
the declaration is a single match, and its clause is the whole tree.

Each path of the tree gives one import and one edge. The path and the alias are told apart
by the first ` as `, which no path holds.
-/

namespace ImpactGraph.Rules.Rust

open Text Pattern

/-! ## The grammar -/

/-- A name in a use declaration, in a path or as an alias: a word, but none that begins a
declaration of another kind. -/
structure IsUseName (name : Text) : Prop where
  ne_nil : name ≠ []
  letters : ∀ c ∈ name, isWord c = true
  ordinary : name ∉ ["pub".toList, "mod".toList]

instance (name : Text) : Decidable (IsUseName name) :=
  decidable_of_iff (name ≠ [] ∧ (∀ c ∈ name, isWord c = true) ∧
    name ∉ ["pub".toList, "mod".toList])
    ⟨fun ⟨a, b, c⟩ => ⟨a, b, c⟩, fun ⟨a, b, c⟩ => ⟨a, b, c⟩⟩

/-- A text whose words are names that a use declaration may hold, and in which it does not
end. -/
structure HoldsNames (t : Text) : Prop where
  names : ∀ name ∈ fields (fun c => !isWord c) t, IsUseName name
  closed : ';' ∉ t

/-- What may stand between `use` and the semicolon. -/
structure IsClause (t : Text) : Prop extends HoldsNames t where
  ne_nil : t ≠ []
  head : ∀ c ∈ t.head?, isBlank c = false

/-- A use declaration. -/
def useText (clause : Text) : Text := "use ".toList ++ clause ++ ";".toList

theorem useText_eq (clause : Text) :
    useText clause = "use".toList ++ ' ' :: (clause ++ [';']) :=
  List.append_assoc "use ".toList clause ";".toList

section Declarations

variable {w : Workspace} {root file t u v word name : Text} {p : Pattern} {c : Cursor}

/-! ## The passes for other declarations -/

/-- A text that begins with a word of another declaration: blanks may come before it, and
no letter of its own follows. -/
def BeginsOther (t : Text) : Prop :=
  ∃ pad word c rest, t = pad ++ word ++ c :: rest ∧ (∀ y ∈ pad, isInlineBlank y = true) ∧
    word ∈ ["pub".toList, "mod".toList] ∧ isWord c = false

theorem begins_of_takes_moduleDeclaration (h : moduleDeclaration.Takes t) :
    BeginsOther t := by
  simp only [moduleDeclaration, takes_append_assoc] at h
  obtain ⟨_, _, rfl, rfl, pad, _, rfl, hpad, _, _, rfl, hvisible, _, _, rfl, rfl,
    _, after, rfl, ⟨_, s, rfl, ⟨b, rfl, hb⟩, -⟩, -⟩ := h
  rcases hvisible with ⟨_, _, rfl, ⟨_, part, rfl, rfl, hpart⟩, _, s', rfl,
    ⟨b', rfl, hb'⟩, -⟩ | rfl
  · rcases hpart with ⟨_, _, rfl, ⟨_, inside, rfl, rfl, -⟩, rfl⟩ | rfl
    · exact ⟨pad, "pub".toList, '(', inside ++ ")".toList ++ b' :: s' ++
        ("mod".toList ++ (b :: s ++ after)), by simp, hpad, by decide, by decide⟩
    · exact ⟨pad, "pub".toList, b', s' ++ ("mod".toList ++ (b :: s ++ after)), by
        simp, hpad, by decide, isWord_of_isInlineBlank hb'⟩
  · exact ⟨pad, "mod".toList, b, s ++ after, by simp, hpad, by
      decide, isWord_of_isInlineBlank hb⟩

theorem begins_of_takes_publicItem (h : publicItem.Takes t) : BeginsOther t := by
  simp only [publicItem, takes_append_assoc] at h
  obtain ⟨_, _, rfl, rfl, pad, _, rfl, hpad, _, _, rfl, rfl, _, after, rfl,
    ⟨_, s, rfl, ⟨b, rfl, hb⟩, -⟩, -⟩ := h
  exact ⟨pad, "pub".toList, b, s ++ after, by simp, hpad, by
    decide, isWord_of_isInlineBlank hb⟩

/-- Where neither word is a name of a text, the text holds no other declaration. -/
theorem findAll_eq_nil_of_names (hline : StartsLine p)
    (hbegins : ∀ t, p.Takes t → BeginsOther t)
    (h : ∀ name ∈ fields (fun c => !isWord c) t, IsUseName name) : p.findAll t = [] := by
  refine findAll_eq_nil_of_matchAt fun u v huv => matchAt_eq_none fun d hd => ?_
  have hbreak : ∀ x ∈ u.getLast?, x = '\n' := by
    have hbefore := hline _ d hd
    simpa [Cursor.past, Cursor.ofText] using hbefore
  obtain ⟨taken, ⟨hrest, -⟩, htaken⟩ := takes_of_mem_ends hd
  obtain ⟨pad, word, b, rest, rfl, hpad, hword, hb⟩ := hbegins taken htaken
  have hletters : word ≠ [] ∧ ∀ y ∈ word, (!isWord y) = false := by
    simp only [List.mem_cons, List.not_mem_nil, or_false] at hword
    rcases hword with rfl | rfl <;> decide
  have hseparate : ∀ x ∈ (u ++ pad).getLast?, (!isWord x) = true := by
    intro x hx
    rcases List.eq_nil_or_concat pad with rfl | ⟨pad, y, rfl⟩
    · rw [List.append_nil] at hx
      rw [hbreak x hx]
      decide
    · obtain rfl : x = y := by simpa using hx.symm
      rw [isWord_of_isInlineBlank (hpad x (by simp))]
      rfl
  have ht : t = (u ++ pad) ++ word ++ (b :: (rest ++ d.rest)) := by
    have hv : v = pad ++ word ++ b :: rest ++ d.rest := hrest
    rw [huv, hv]
    simp
  have hstop : ∀ x ∈ (b :: (rest ++ d.rest)).head?, (!isWord x) = true := by
    rintro x ⟨⟩
    rw [hb]
    rfl
  have hmem := mem_fields_between hletters.2 hletters.1 hseparate hstop
  rw [← ht] at hmem
  exact (h word hmem).ordinary hword

/-! ## The pass for use declarations -/

theorem matchAt_useDeclaration_of_nil (hrest : c.rest = []) :
    useDeclaration.matchAt c = none := by
  refine matchAt_eq_none fun d hd => ?_
  obtain ⟨taken, ⟨htaken, -⟩, h⟩ := takes_of_mem_ends hd
  obtain ⟨a, _, rfl, -, rfl⟩ := h
  have hnil : a ++ ";".toList ++ d.rest = [] := htaken.symm.trans hrest
  simp at hnil

theorem exists_first_useDeclaration (h : IsClause t) :
    ∃ d, useDeclaration.first some (.ofText (useText t)) = some d ∧
      (Cursor.ofText (useText t)).Spans d (useText t) ∧
      ((Cursor.ofText (useText t)).matchTo d).part .clause = t := by
  obtain ⟨x, clause, rfl⟩ := List.exists_cons_of_ne_nil h.ne_nil
  have hclosed : ∀ y ∈ x :: clause, decide (y ≠ ';') = true :=
    fun y hy => decide_eq_true fun he => h.closed (he ▸ hy)
  obtain ⟨hx, hclause⟩ := List.forall_mem_cons.1 hclosed
  have hhead : isInlineBlank x = false := by
    refine Bool.eq_false_iff.2 fun hblank => ?_
    simp only [isInlineBlank, Bool.or_eq_true, decide_eq_true_eq] at hblank
    rcases hblank with rfl | rfl <;> exact absurd (h.head _ rfl) (by decide)
  have hvisible {next : Cursor → Option Cursor} {c : Cursor} (hrest :
      c.rest.head? = some 'u') :
        (Pattern.word "pub" ++
          optional (Pattern.word "(" ++ many (· ≠ ')') ++ Pattern.word ")") ++
          inlineSpace).first next c = none := by
    refine first_eq_none fun d hd => ?_
    obtain ⟨_, ⟨htaken, -⟩, _, _, rfl, ⟨_, _, rfl, rfl, -⟩, -⟩ := takes_of_mem_ends hd
    rw [htaken] at hrest
    have hother : some 'p' = some 'u' := hrest
    exact absurd (Option.some.inj hother) (by decide)
  have hparts : (Cursor.ofText (useText (x :: clause))).rest =
      "use".toList ++ ([' '] ++ (x :: clause ++ (";".toList ++ []))) :=
        useText_eq (x :: clause)
  simp only [useDeclaration, visibility, first_append]
  apply Exists.intro
  constructor
  · apply first_lineStart (by rintro y ⟨⟩)
    apply first_many_of_stop (by rintro y ⟨⟩; decide)
    apply first_optional_right (hvisible rfl)
    apply first_word hparts
    apply first_many1 Cursor.past_rest (by decide) (List.forall_mem_nil _)
      (by rintro y ⟨⟩; exact hhead)
    rw [first_keep]
    apply first_many1 Cursor.past_rest hx hclause (by rintro y ⟨⟩; decide)
    exact first_word (Cursor.keeping_rest.trans Cursor.past_rest) rfl
  · refine ⟨⟨(List.append_nil _).symm, ?_⟩,
      part_of_lookup rfl (Cursor.spans_past Cursor.past_rest)⟩
    simp [useText_eq]
    omega

theorem findAll_useDeclaration (h : IsClause t) :
    ∃ m, useDeclaration.findAll (useText t) = [m] ∧ m.start = 0 ∧ m.part .clause = t := by
  obtain ⟨d, hd, hspan, hpart⟩ := exists_first_useDeclaration h
  have hrest : (Cursor.ofText (useText t)).rest = useText t ++ [] :=
    (List.append_nil _).symm
  have hfound := foundFrom_of_first hrest (by simp [useText_eq]) hd hspan
  have hend : useDeclaration.foundFrom ((Cursor.ofText (useText t)).past (useText t) []) =
      [] :=
    foundFrom_nil (matchAt_useDeclaration_of_nil Cursor.past_rest) Cursor.past_rest
  rw [hend, ← findAll_eq] at hfound
  exact ⟨_, hfound, rfl, hpart⟩

theorem names_useText (h : HoldsNames t) :
    ∀ name ∈ fields (fun c => !isWord c) (useText t), IsUseName name := by
  have hfields : fields (fun c => !isWord c) (useText t) =
      "use".toList :: (fields (fun c => !isWord c) t ++ []) := by
    rw [useText_eq, fields_append_cons (by decide), fields_append_cons (by decide),
      fields_of_forall_neg (by decide) (by decide)]
    rfl
  rw [hfields, List.append_nil]
  exact List.forall_mem_cons.2 ⟨by decide, h.names⟩

theorem nestsBeyond_useText (h : IsClause t) {stack : Nat} :
    NestsBeyond stack (useText t) ↔ stack < UseTree.depth t := by
  obtain ⟨m, hm, -, hclause⟩ := findAll_useDeclaration h
  rw [NestsBeyond, hm, ← hclause]
  simp

/-- A use declaration finds what the paths of its tree say, if the stack holds them, and
nothing else is found in it. -/
theorem findings_useText (h : IsClause t) :
    findings w root file (useText t) =
      if UseTree.depth t ≤ w.stack then
        .ok ((UseTree.expand t []).flatMap fun entry => useFindings w root file entry 1)
      else .error .tooDeep := by
  have hnames := names_useText h.toHoldsNames
  have hmodule : moduleDeclaration.findAll (useText t) = [] :=
    findAll_eq_nil_of_names (startsLine_of_front rfl) (fun _ =>
      begins_of_takes_moduleDeclaration) hnames
  have hitem : publicItem.findAll (useText t) = [] :=
    findAll_eq_nil_of_names (startsLine_of_front rfl) (fun _ =>
      begins_of_takes_publicItem) hnames
  obtain ⟨m, hm, hstart, hclause⟩ := findAll_useDeclaration h
  have hall : allFindings w root file (useText t) =
      (UseTree.expand t []).flatMap fun entry => useFindings w root file entry 1 := by
    rw [allFindings, hmodule, hitem, hm, List.flatMap_singleton, hstart, hclause]
    exact List.append_nil _
  simp only [findings_eq, nestsBeyond_useText h, hall, ← Nat.not_le, ite_not]

end Declarations

/-! ## Paths and aliases -/

section Entries

open UseTree Resolve

variable {w : Workspace} {root file t : Text} {path : List Text}
  {renamed : Option Text} {name : Text}

theorem IsUseName.isWord (h : IsUseName name) : IsWord name := by
  refine ⟨h.ne_nil, fun c hc => ?_⟩
  have hblank := isBlank_of_isWord (h.letters c hc)
  have hno (x : Char) (hx : Text.isWord x = false) : c ≠ x :=
    fun he => Bool.eq_false_iff.1 hx (he ▸ h.letters c hc)
  simp [isMark, hblank, hno ',' (by decide), hno '{' (by decide), hno '}' (by decide)]

theorem IsUseName.notMem (h : IsUseName name) {c : Char}
    (hc : Text.isWord c = false) : c ∉ name :=
  fun hmem => Bool.eq_false_iff.1 hc (h.letters c hmem)

theorem IsUseName.isSegment (h : IsUseName name) : IsSegment name := by
  obtain ⟨c, hc⟩ := List.exists_mem_of_ne_nil name h.ne_nil
  have hdot : c ≠ '.' :=
    fun he => h.notMem (by decide : Text.isWord '.' = false) (he ▸ hc)
  exact ⟨.of_mem_ne_dot hc hdot (h.notMem (by decide)), h.notMem (by decide)⟩

theorem notMem_usePath (h : ∀ name ∈ path, IsUseName name) {c : Char}
    (hc : Text.isWord c = false) (hcolon : c ≠ ':') : c ∉ usePath path := by
  have hall : ∀ x ∈ usePath path, x ≠ c := by
    refine forall_mem_join ?_ fun name hname x hx he => (h name hname).notMem hc (he ▸ hx)
    intro x hx
    obtain rfl : x = ':' := by simpa using hx
    exact hcolon.symm
  exact fun hmem => hall c hmem rfl

theorem leafText_none (path : List Text) : leafText path none = usePath path :=
  List.append_nil _

theorem before_leafText (hpath : ∀ name ∈ path, IsUseName name) :
    before " as ".toList (leafText path renamed) = usePath path ∧
      after " as ".toList (leafText path renamed) = renamed.getD [] := by
  have hspace : ' ' ∉ usePath path := notMem_usePath hpath (by decide) (by decide)
  cases renamed with
  | none =>
      rw [leafText_none]
      exact ⟨before_of_notMem hspace, after_of_notMem hspace⟩
  | some name =>
      have htext : leafText path (some name) = usePath path ++ " as ".toList ++ name :=
        (List.append_assoc _ _ _).symm
      rw [htext]
      exact ⟨before_append hspace, after_append hspace⟩

/-- One path finds one import and one edge. -/
theorem useFindings_leafText (hne : path ≠ []) (hpath : ∀ name ∈ path, IsUseName name)
    (hrenamed : ∀ name ∈ renamed, IsUseName name) (line : Nat) :
    useFindings w root file (leafText path renamed) line =
      [.imports ⟨path.getLast hne, rust w root file (usePath path), .named,
        leafText path renamed, line,
          renamed⟩,
        .dependsOn (rust w root file (usePath path))] := by
  have hblank : ∀ c ∈ usePath path, isBlank c = false :=
    not_blank_of_unmarked (unmarked_join fun name hname => (hpath name hname).isWord)
  have hstar : endsWith (usePath path) "::*".toList = false := by
    refine Bool.eq_false_iff.2 fun hends => ?_
    have hmem : '*' ∈ usePath path :=
      (List.isSuffixOf_iff_suffix.1 hends).subset (by decide)
    exact notMem_usePath hpath (by decide) (by decide) hmem
  have hlast : afterLast "::".toList (usePath path) = path.getLast hne :=
    @afterLast_join ':' [':'] _ hne fun name hname =>
      (hpath name hname).notMem (by decide)
  have halias : strip (renamed.getD []) = renamed.getD [] ∧
      (if renamed.getD [] = [] then none else some (renamed.getD [])) = renamed := by
    cases renamed with
    | none => exact ⟨rfl, rfl⟩
    | some name =>
        exact ⟨strip_eq (hrenamed name rfl).isWord.trim,
          if_neg (hrenamed name rfl).ne_nil⟩
  obtain ⟨hbefore, hafter⟩ := @before_leafText path renamed hpath
  simp only [useFindings, hbefore, hafter, strip_eq (.of_forall hblank), halias.1,
    halias.2, hstar, Bool.false_eq_true, if_false, hlast]

/-! ## Clauses -/

theorem IsUseName.holdsNames (h : IsUseName name) : HoldsNames name := by
  have hletters : ∀ c ∈ name, (!Text.isWord c) = false := fun c hc => by
    rw [h.letters c hc]; rfl
  refine ⟨?_, h.notMem (by decide)⟩
  rw [fields_of_forall_neg hletters h.ne_nil]
  exact List.forall_mem_singleton.2 h

theorem holdsNames_nil : HoldsNames [] := ⟨List.forall_mem_nil _, List.not_mem_nil⟩

theorem HoldsNames.append_cons {s : Text} {c : Char} (hs : HoldsNames s)
    (hc : Text.isWord c = false) (hopen : c ≠ ';') (ht : HoldsNames t) :
    HoldsNames (s ++ c :: t) := by
  refine ⟨?_, ?_⟩
  · rw [fields_append_cons (by rw [hc]; rfl)]
    exact List.forall_mem_append.2 ⟨hs.names, ht.names⟩
  · simp only [List.mem_append, List.mem_cons, not_or]
    exact ⟨hs.closed, hopen.symm, ht.closed⟩

theorem HoldsNames.pad {left right : Text} (hleft : ∀ c ∈ left, isBlank c = true)
    (h : HoldsNames t) (hright : ∀ c ∈ right, isBlank c = true) :
    HoldsNames (left ++ t ++ right) := by
  have hseparates {s : Text} (hs : ∀ c ∈ s, isBlank c = true) : ∀ c ∈ s,
      (!Text.isWord c) = true := by
    intro c hc
    rw [Bool.eq_false_iff.2 fun hword =>
      Bool.eq_false_iff.1 (isBlank_of_isWord hword) (hs c hc)]
    rfl
  have hopen {s : Text} (hs : ∀ c ∈ s, isBlank c = true) : ';' ∉ s :=
    fun hmem => absurd (hs _ hmem) (by decide)
  refine ⟨?_, ?_⟩
  · rw [fields_append_pad (hseparates hright), fields_pad (hseparates hleft)]
    exact h.names
  · simp only [List.mem_append, not_or]
    exact ⟨⟨hopen hleft, h.closed⟩, hopen hright⟩

theorem holdsNames_usePath (h : ∀ name ∈ path, IsUseName name) :
    HoldsNames (usePath path) := by
  induction path with
  | nil => exact holdsNames_nil
  | cons name path ih =>
      obtain ⟨hname, hpath⟩ := List.forall_mem_cons.1 h
      by_cases hnil : path = []
      · rw [hnil]
        exact hname.holdsNames
      · have hjoin : usePath (name :: path) = name ++ ':' ::
            ([] ++ ':' :: usePath path) := by
          rw [usePath, join_cons _ _ hnil]
          exact List.append_assoc _ _ _
        rw [hjoin]
        exact hname.holdsNames.append_cons (by decide) (by decide)
          (holdsNames_nil.append_cons (by decide) (by decide) (ih hpath))

theorem holdsNames_headText {above : List Text} (h : ∀ name ∈ above, IsUseName name) :
    HoldsNames (headText above) := by
  induction above with
  | nil => exact holdsNames_nil
  | cons name above ih =>
      obtain ⟨hname, habove⟩ := List.forall_mem_cons.1 h
      have hhead : headText (name :: above) = name ++ ':' ::
          ([] ++ ':' :: headText above) :=
        List.append_assoc _ _ _
      rw [hhead]
      exact hname.holdsNames.append_cons (by decide) (by decide)
        (holdsNames_nil.append_cons (by decide) (by decide) (ih habove))

theorem holdsNames_leafText (hpath : ∀ name ∈ path, IsUseName name)
    (hrenamed : ∀ name ∈ renamed, IsUseName name) :
    HoldsNames (leafText path renamed) := by
  cases renamed with
  | none =>
      rw [leafText_none]
      exact holdsNames_usePath hpath
  | some name =>
      have has : IsUseName "as".toList := by decide
      have htext : leafText path (some name) = usePath path ++ ' ' ::
          ("as".toList ++ ' ' :: name) := rfl
      rw [htext]
      exact (holdsNames_usePath hpath).append_cons (by decide) (by decide)
        (has.holdsNames.append_cons (by decide) (by decide)
          (hrenamed name rfl).holdsNames)

/-- What is written for a tree of names holds them and nothing else. -/
theorem holdsNames_of_written {tree : Tree} (h : Written tree t)
    (hnames : ∀ name ∈ tree.names, IsUseName name) : HoldsNames t := by
  refine @Written.rec
    (fun tree t _ => (∀ name ∈ tree.names, IsUseName name) → HoldsNames t)
    (fun trees t _ => (∀ name ∈ Tree.namesOf trees, IsUseName name) → HoldsNames t)
    ?leaf ?group ?none ?last ?more tree t h hnames
  case leaf =>
    intro path renamed _ _ _ hnames
    obtain ⟨hpath, hrenamed⟩ := List.forall_mem_append.1 hnames
    exact holdsNames_leafText hpath fun name hname =>
      hrenamed name (Option.mem_toList.2 hname)
  case group =>
    intro above members gap inside _ hgap _ _ ih hnames
    obtain ⟨habove, hmembers⟩ := List.forall_mem_append.1 hnames
    have hhead := (holdsNames_headText habove).pad (List.forall_mem_nil _) hgap
    exact hhead.append_cons (by decide) (by decide)
      ((ih hmembers).append_cons (by decide) (by decide) holdsNames_nil)
  case none =>
    intro pad hpad _
    have hpad := holdsNames_nil.pad hpad (List.forall_mem_nil _)
    rwa [List.append_nil, List.append_nil] at hpad
  case last =>
    intro tree left text right hleft _ hright ih hnames
    exact (ih (List.forall_mem_append.1 hnames).1).pad hleft hright
  case more =>
    intro tree trees left text right rest hleft _ hright _ ih ihrest hnames
    obtain ⟨htree, htrees⟩ := List.forall_mem_append.1 hnames
    exact ((ih htree).pad hleft hright).append_cons (by decide) (by decide)
      (ihrest htrees)

theorem isClause_of_written {tree : Tree} (h : Written tree t)
    (hnames : ∀ name ∈ tree.names, IsUseName name) : IsClause t :=
  ⟨holdsNames_of_written h hnames, h.trim.2, h.trim.1.head⟩

/-- A use declaration finds one import and one edge for each leaf of its tree, if the
stack holds a call more than there are groups inside one another. -/
theorem findings_of_written {tree : Tree} (h : Written tree t)
    (hnames : ∀ name ∈ tree.names, IsUseName name) :
    findings w root file (useText t) =
      if tree.nesting < w.stack then
        .ok ((tree.paths.map dropSelf).flatMap fun entry =>
          useFindings w root file entry 1)
      else .error .tooDeep := by
  have hexpand :=
    @expand_padded tree t [] [] h (List.forall_mem_nil _) (List.forall_mem_nil _) []
  have hdepth :=
    @depth_padded tree t [] [] h (List.forall_mem_nil _) (List.forall_mem_nil _)
  rw [List.nil_append, List.append_nil] at hexpand hdepth
  rw [findings_useText (isClause_of_written h hnames), hexpand, hdepth]
  rfl

end Entries

end ImpactGraph.Rules.Rust
