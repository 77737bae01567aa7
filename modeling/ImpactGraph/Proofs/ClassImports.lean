import ImpactGraph.Proofs.PatternSearch
import ImpactGraph.Proofs.RecordedFindings
import ImpactGraph.Proofs.RelativeModules
import ImpactGraph.Proofs.ScriptTargets
import ImpactGraph.Proofs.TextWords

/-!
# Three ways to import from a class

A class is imported by its name, a member of it by the name and one part more, and all of
its members by the name and a star. The first two are looked up as the file of the class:
the member is dropped before the file is sought. A star always stands for a directory,
though, also where what it follows is a class, so an import of all static members leads to
the directory that the class would be as a package, and never to the class.

A part of a name may hold letters that the rules do not read, such as a dollar sign.
No import of such a name is found at all.
-/

namespace ImpactGraph

theorem Text.mem_join_of_mem {x : Char} {sep part : Text} {parts : List Text}
    (hpart : part ∈ parts) (hx : x ∈ part) : x ∈ join sep parts := by
  induction parts with
  | nil => exact absurd hpart List.not_mem_nil
  | cons first parts ih =>
      by_cases hparts : parts = []
      · subst hparts
        exact List.mem_singleton.1 hpart ▸ hx
      · rw [join_cons sep first hparts, List.mem_append, List.mem_append]
        rcases List.mem_cons.1 hpart with rfl | hpart
        · exact .inl (.inl hx)
        · exact .inr (ih hpart)

namespace Pattern

/-- A pattern for beginnings of lines has to match at the beginning of a text that is one
line. -/
theorem findAll_eq_nil_of_line {p : Pattern} {t : Text} (hline : StartsLine p)
    (hbreak : '\n' ∉ t) (h : p.matchAt (.ofText t) = none) : p.findAll t = [] := by
  refine findAll_eq_nil_of_matchAt fun u v huv => ?_
  rcases List.eq_nil_or_concat u with rfl | ⟨u, x, rfl⟩
  · rwa [Cursor.past_nil huv]
  · refine matchAt_eq_none fun d hd => hbreak ?_
    obtain rfl : x = '\n' := hline _ d hd x (by simp [Cursor.past])
    rw [huv]
    simp

/-- A text that is one match holds no other. -/
theorem findAll_of_whole {p : Pattern} {t : Text} {d : Cursor} (hne : t ≠ [])
    (hfirst : p.first some (.ofText t) = some d) (hspan : (Cursor.ofText t).Spans d t)
    (hend : ∀ e, e ∉ p.ends ((Cursor.ofText t).past t [])) :
    p.findAll t = [(Cursor.ofText t).matchTo d] := by
  rw [findAll_eq, foundFrom_of_first (List.append_nil t).symm hne hfirst hspan,
    foundFrom_nil (matchAt_eq_none hend) rfl]

end Pattern

namespace Rules.Java

open Text Pattern ImpactGraph.Path

/-! ## The grammar -/

/-- A part of a qualified name: blanks and the marks of an import are not in it. -/
structure IsPart (part : Text) : Prop where
  ne_nil : part ≠ []
  plain : ∀ c ∈ part, isBlank c = false ∧ c ∉ ['.', ';', '*', '/']

instance (part : Text) : Decidable (IsPart part) :=
  decidable_of_iff (part ≠ [] ∧ ∀ c ∈ part, isBlank c = false ∧ c ∉ ['.', ';', '*', '/'])
    ⟨fun ⟨a, b⟩ => ⟨a, b⟩, fun ⟨a, b⟩ => ⟨a, b⟩⟩

/-- Names that the rules read: words with dots between them. -/
def AreWords (parts : List Text) : Prop := ∀ part ∈ parts, ∀ c ∈ part, isWord c = true

instance (parts : List Text) : Decidable (AreWords parts) :=
  inferInstanceAs (Decidable (∀ part ∈ parts, ∀ c ∈ part, isWord c = true))

/-- An import without the semicolon that ends it. -/
def importBody (isStatic : Bool) (parts : List Text) (wildcard : Bool) : Text :=
  "import ".toList ++ (if isStatic then "static ".toList else []) ++ join ['.'] parts ++
    (if wildcard then ".*".toList else [])

/-- An import of a class, of a member, or of all that a name holds. -/
def importText (isStatic : Bool) (parts : List Text) (wildcard : Bool) : Text :=
  importBody isStatic parts wildcard ++ [';']

section Declaration

variable {isStatic wildcard : Bool} {parts : List Text} {part t : Text} {c : Cursor}

theorem IsPart.notMem {x : Char} (h : IsPart part)
    (hx : isBlank x = true ∨ x ∈ ['.', ';', '*', '/']) : x ∉ part := by
  intro hmem
  obtain ⟨hblank, hmark⟩ := h.plain x hmem
  exact hx.elim (by simp [hblank]) hmark

theorem IsPart.isName (h : IsPart part) : IsName part := by
  have hdot : '.' ∉ part := h.notMem (.inr (by decide))
  refine ⟨h.ne_nil, ?_, ?_, h.notMem (.inr (by decide))⟩ <;> rintro rfl <;>
    exact hdot (by decide)

/-- In a qualified name there are no blanks, and of the marks only dots. -/
theorem notMem_join {x : Char} (hparts : ∀ part ∈ parts, IsPart part)
    (hx : isBlank x = true ∨ x ∈ [';', '*', '/']) : x ∉ join ['.'] parts := by
  have hdot : x ≠ '.' := by
    rintro rfl
    revert hx
    decide
  intro hmem
  refine forall_mem_join (P := (x ≠ ·)) (by simpa using hdot)
    (fun part hpart y hy he => ?_) x hmem rfl
  subst he
  refine (hparts part hpart).notMem ?_ hy
  exact hx.imp_right fun h => List.mem_cons_of_mem '.' h

theorem notMem_importBody {x : Char} (hparts : ∀ part ∈ parts, IsPart part)
    (hx : x = '\n' ∨ x = ';') : x ∉ importBody isStatic parts wildcard := by
  have hname : x ∉ join ['.'] parts := by
    refine notMem_join hparts ?_
    rcases hx with rfl | rfl <;> decide
  have hstatic : x ∉ (if isStatic = true then "static ".toList else []) := by
    rcases hx with rfl | rfl <;> cases isStatic <;> decide
  have hstar : x ∉ (if wildcard = true then ".*".toList else []) := by
    rcases hx with rfl | rfl <;> cases wildcard <;> decide
  have himport : x ∉ "import ".toList := by rcases hx with rfl | rfl <;> decide
  unfold importBody
  simp only [List.mem_append, not_or]
  exact ⟨⟨⟨himport, hstatic⟩, hname⟩, hstar⟩

theorem notMem_importText (hparts : ∀ part ∈ parts, IsPart part) :
    '\n' ∉ importText isStatic parts wildcard := by
  rw [importText, List.mem_append, not_or]
  exact ⟨notMem_importBody hparts (.inl rfl), by decide⟩

theorem mem_importBody {x : Char} (hpart : part ∈ parts) (hx : x ∈ part) :
    x ∈ importBody isStatic parts wildcard := by
  unfold importBody
  exact List.mem_append_left _ (List.mem_append_right _ (mem_join_of_mem hpart hx))

/-! ## What an import is read as -/

/-- The marks behind the name: a star for all that it holds, and the end. -/
def marks (wildcard : Bool) : Text := (if wildcard then ".*".toList else []) ++ ";".toList

/-- What is read behind the name. -/
def ending : Pattern := optional (keep .wildcard (word ".*")) ++ inlineGap ++ word ";"

/-- The name cannot end early: what is left of it is no mark. -/
theorem first_ending_eq_none {β : Type} {next : Cursor → Option β} {b : Text}
    (hne : b ≠ []) (hdotted : ∀ x ∈ b, isDottedChar x = true)
    (hlast : ∀ x ∈ b.getLast?, isWord x = true) (hrest : c.rest = b ++ marks wildcard) :
    ending.first next c = none := by
  refine first_eq_none fun d hd => ?_
  obtain ⟨_, ⟨htaken, -⟩, _, _, rfl, ⟨star, blanks, rfl, hstar, hblanks⟩, rfl⟩ :=
    takes_of_mem_ends hd
  obtain ⟨x, b, rfl⟩ := List.exists_cons_of_ne_nil hne
  have hx : isDottedChar x = true := hdotted x List.mem_cons_self
  rw [hrest] at htaken
  rcases hstar with rfl | rfl
  -- A star can only follow a dot that ends the name, and there is none.
  · cases b with
    | nil =>
        obtain rfl : x = '.' := (List.cons.inj htaken).1
        exact absurd (hlast '.' rfl) (by decide)
    | cons y b =>
        obtain rfl : y = '*' := (List.cons.inj (List.cons.inj htaken).2).1
        exact absurd (hdotted '*' (by simp)) (by decide)
  · cases blanks with
    | nil =>
        obtain rfl : x = ';' := (List.cons.inj htaken).1
        exact absurd hx (by decide)
    | cons y blanks =>
        obtain rfl : x = y := (List.cons.inj htaken).1
        have hblank := hblanks x List.mem_cons_self
        rw [isDottedChar, isWord_of_isInlineBlank hblank, Bool.false_or,
          decide_eq_true_eq] at hx
        subst hx
        exact absurd hblank (by decide)

theorem exists_first_ending (hrest : c.rest = marks wildcard) :
    ∃ d, ending.first some c = some d ∧ c.Spans d (marks wildcard) ∧
      ∃ new, d.kept = new ++ c.kept ∧ (new.lookup .wildcard).isSome = wildcard ∧
        new.lookup .source = none ∧ new.lookup .isStatic = none := by
  have hend {c : Cursor} (hrest : c.rest = ";".toList ++ []) :
      inlineGap.first ((word ";").first some) c = some (c.past ";".toList []) := by
    refine first_many_of_stop ?_ (first_word hrest rfl)
    rw [hrest]
    decide
  simp only [ending, first_append]
  cases wildcard with
  | false =>
      have hnone :
          (keep .wildcard (word ".*")).first (inlineGap.first ((word ";").first some)) c =
            none := by
        refine first_eq_none fun d hd => ?_
        obtain ⟨_, ⟨htaken, -⟩, rfl⟩ := takes_of_mem_ends hd
        rw [hrest] at htaken
        exact absurd (List.cons.inj htaken).1 (by decide)
      exact ⟨_, first_optional_right hnone (hend hrest), ⟨hrest, rfl⟩, [], rfl,
        rfl, rfl, rfl⟩
  | true =>
      apply Exists.intro
      constructor
      · apply first_optional
        rw [first_keep]
        exact first_word hrest (hend (Cursor.keeping_rest.trans Cursor.past_rest))
      · exact ⟨⟨hrest, by simp [marks]⟩, [_], rfl, rfl, rfl, rfl⟩

/-- The name is read to its end, and the marks behind it. -/
theorem exists_first_name {name : Text} (hne : name ≠ [])
    (hdotted : ∀ x ∈ name, isDottedChar x = true)
    (hlast : ∀ x ∈ name.getLast?, isWord x = true)
    (hrest : c.rest = name ++ marks wildcard) :
    ∃ d,
      (keep .source (one isDottedChar ++ few isDottedChar)).first (ending.first some) c =
        some d ∧
      c.Spans d (name ++ marks wildcard) ∧ (c.matchTo d).part .source = name ∧
      (d.kept.lookup .wildcard).isSome = (wildcard || (c.kept.lookup .wildcard).isSome) ∧
      d.kept.lookup .isStatic = c.kept.lookup .isStatic := by
  obtain ⟨x, more, rfl⟩ := List.exists_cons_of_ne_nil hne
  obtain ⟨hx, hmore⟩ := List.forall_mem_cons.1 hdotted
  obtain ⟨d, hd, hspan, new, hnew, hwildcard, hsource, hstatic⟩ :=
    @exists_first_ending wildcard
      ((c.past (x :: more) (marks wildcard)).keeping .source c) rfl
  refine ⟨d, ?_, ?_, ?_, ?_, ?_⟩
  · rw [first_keep, first_append]
    refine first_one hrest hx (first_few Cursor.past_rest hmore (fun a b hab hb => ?_) ?_)
    · refine first_ending_eq_none hb (fun y hy =>
        hmore y (hab ▸ List.mem_append_right a hy)) ?_ rfl
      intro y hy
      refine hlast y ?_
      rw [hab, ← List.cons_append, List.getLast?_append_of_ne_nil _ hb]
      exact hy
    · rw [Cursor.past_past]
      exact hd
  · have hname :
        c.Spans ((c.past (x :: more) (marks wildcard)).keeping .source c) (x :: more) :=
      ⟨hrest, rfl⟩
    exact hname.trans hspan
  · refine part_of_lookup (c := c) (d := c.past (x :: more) (marks wildcard)) ?_
      (Cursor.spans_past hrest)
    show d.kept.lookup .source = _
    rw [hnew, List.lookup_append, hsource]
    rfl
  · rw [hnew, List.lookup_append]
    cases hlookup : new.lookup .wildcard with
    | none =>
        rw [hlookup] at hwildcard
        rw [← hwildcard]
        rfl
    | some capture =>
        rw [hlookup] at hwildcard
        rw [← hwildcard]
        rfl
  · rw [hnew, List.lookup_append, hstatic]
    rfl

theorem importText_eq : importText isStatic parts wildcard = "import".toList ++ ([' '] ++
    ((if isStatic then "static".toList ++ [' '] else []) ++
      (join ['.'] parts ++ marks wildcard))) := by
  unfold importText importBody marks
  cases isStatic <;> simp

/-- The word in front of the name of a static import. -/
def staticMark : Pattern := keep .isStatic (word "static" ++ inlineSpace)

/-- No blank follows the name, so a name that starts like the word is not taken for it. -/
theorem first_staticMark_eq_none {β : Type} {next : Cursor → Option β}
    (hrest : ∀ x ∈ c.rest, isInlineBlank x = false) : staticMark.first next c = none := by
  refine first_eq_none fun d hd => ?_
  obtain ⟨_, ⟨htaken, -⟩, _, _, rfl, rfl, _, more, rfl, ⟨x, rfl, hx⟩, -⟩ :=
    takes_of_mem_ends hd
  rw [htaken] at hrest
  exact absurd hx (by simp [hrest x (by simp)])

/-- The word is kept where it stands, and what follows goes on behind it. -/
theorem exists_static {more : Text} (hkept : c.kept = [])
    (hplain : ∀ x ∈ more, isInlineBlank x = false)
    (hrest : c.rest = (if isStatic then "static".toList ++ [' '] else []) ++ more) :
    ∃ e, (∀ (next : Cursor → Option Cursor) d, next e = some d →
      staticMark.optional.first next c = some d) ∧
      c.Spans e (if isStatic then "static".toList ++ [' '] else []) ∧
      (e.kept.lookup .isStatic).isSome = isStatic ∧ e.kept.lookup .wildcard = none := by
  cases isStatic with
  | false =>
      refine ⟨c, fun next d hd => first_optional_right (first_staticMark_eq_none ?_) hd,
        .refl c, ?_, ?_⟩
      · rw [hrest]
        exact hplain
      · rw [hkept]
        rfl
      · rw [hkept]
        rfl
  | true =>
      have hrest : c.rest = "static".toList ++ ([' '] ++ more) := by simpa using hrest
      refine ⟨(c.past ("static".toList ++ [' ']) more).keeping .isStatic c,
        fun next d hd => ?_, ?_, rfl, ?_⟩
      · apply first_optional
        rw [staticMark, first_keep, first_append]
        refine first_word hrest
          (first_many1 Cursor.past_rest (by decide) (List.forall_mem_nil _) ?_ ?_)
        · exact fun x hx => hplain x (List.mem_of_head? hx)
        · rw [Cursor.past_past]
          exact hd
      · exact ⟨hrest, rfl⟩
      · show List.lookup .wildcard ((Slot.isStatic, _) :: c.kept) = none
        rw [hkept]
        rfl

/-- Before the name comes the word or the name itself, and neither starts with a blank. -/
theorem head_static {more : Text} (hplain : ∀ x ∈ more, isInlineBlank x = false) :
    ∀ x ∈ ((if isStatic then "static".toList ++ [' '] else []) ++ more).head?,
      isInlineBlank x = false := by
  cases isStatic with
  | false => exact fun x hx => hplain x (List.mem_of_head? hx)
  | true =>
      rintro x ⟨⟩
      decide

theorem first_importDeclaration :
    importDeclaration.first some = lineStart.first (inlineGap.first
    ((word "import").first (inlineSpace.first (staticMark.optional.first
      ((keep .source (one isDottedChar ++ few isDottedChar)).first
        (ending.first some)))))) := by
  simp only [importDeclaration, staticMark, ending, first_append]

theorem opens_publicType : publicType.Opens ["public".toList] := opens_of_openings rfl

theorem startsLine_publicType : StartsLine publicType := startsLine_of_front rfl

theorem startsLine_importDeclaration : StartsLine importDeclaration :=
  startsLine_of_front rfl

/-- An import declares no type. -/
theorem findAll_publicType (hparts : ∀ part ∈ parts, IsPart part) :
    publicType.findAll (importText isStatic parts wildcard) = [] := by
  refine findAll_eq_nil_of_line startsLine_publicType (notMem_importText hparts) ?_
  refine matchAt_of_opens opens_publicType ?_
  rintro w hw ⟨rest, heq⟩
  rw [List.mem_singleton.1 hw, Cursor.ofText, importText_eq] at heq
  exact absurd (List.cons.inj heq).1 (by decide)

section Words

variable (hne : parts ≠ []) (hparts : ∀ part ∈ parts, IsPart part)
  (hwords : AreWords parts)
include hne hparts hwords

omit hne hparts in
theorem dotted_join : ∀ x ∈ join ['.'] parts, isDottedChar x = true := by
  refine forall_mem_join (by decide) fun part hpart x hx => ?_
  rw [isDottedChar, hwords part hpart x hx, Bool.true_or]

theorem last_join : ∀ x ∈ (join ['.'] parts).getLast?, isWord x = true := by
  obtain ⟨front, last, rfl⟩ := (List.eq_nil_or_concat parts).resolve_left hne
  rw [List.concat_eq_append] at hparts hwords ⊢
  have hlast : ∀ x ∈ last.getLast?, isWord x = true :=
    fun x hx => hwords last (by simp) x (List.mem_of_getLast? hx)
  by_cases hfront : front = []
  · subst hfront
    exact hlast
  · rw [join_concat _ hfront]
    exact last_append (hparts last (by simp)).ne_nil hlast _

omit hne hparts in
/-- No blank stands in the name or in the marks behind it. -/
theorem plain_name : ∀ x ∈ join ['.'] parts ++ marks wildcard,
    isInlineBlank x = false := by
  refine List.forall_mem_append.2 ⟨fun x hx => Bool.eq_false_iff.2 fun hblank => ?_, ?_⟩
  · have hword := dotted_join hwords x hx
    rw [isDottedChar, isWord_of_isInlineBlank hblank, Bool.false_or,
      decide_eq_true_eq] at hword
    subst hword
    exact absurd hblank (by decide)
  · cases wildcard <;> decide

theorem exists_first_importDeclaration (hbefore : ∀ x ∈ c.before, x = '\n')
    (hkept : c.kept = []) (hrest : c.rest = importText isStatic parts wildcard) :
    ∃ d, importDeclaration.first some c = some d ∧
      c.Spans d (importText isStatic parts wildcard) ∧
      (c.matchTo d).part .source = join ['.'] parts ∧
      ((c.matchTo d).part? .isStatic).isSome = isStatic ∧
      ((c.matchTo d).part? .wildcard).isSome = wildcard := by
  have hname : join ['.'] parts ≠ [] :=
    join_ne_nil (fun part hpart => (hparts part hpart).ne_nil) hne
  have hplain : ∀ x ∈ join ['.'] parts ++ marks wildcard, isInlineBlank x = false :=
    plain_name hwords
  rw [importText_eq] at hrest ⊢
  obtain ⟨e, hstatic, hspan, hisStatic, hnone⟩ := @exists_static isStatic
    (c.past ("import".toList ++ [' ']) _) _ hkept hplain Cursor.past_rest
  have hrestAt : e.rest = join ['.'] parts ++ marks wildcard :=
    List.append_cancel_left hspan.1.symm
  obtain ⟨d, hd, hspan', hsource, hwildcard, hkeep⟩ :=
    @exists_first_name wildcard e _ hname (dotted_join hwords)
      (last_join hne hparts hwords) hrestAt
  refine ⟨d, ?_, ?_, hsource, ?_, ?_⟩
  · rw [first_importDeclaration]
    refine first_lineStart hbefore (first_many_of_stop ?_ (first_word hrest ?_))
    · rw [hrest]
      rintro x ⟨⟩
      decide
    · refine first_many1 Cursor.past_rest (by decide) (List.forall_mem_nil _)
        (head_static hplain) ?_
      rw [Cursor.past_past]
      exact hstatic _ d hd
  · have hstart :=
      Cursor.spans_past (hrest.trans (List.append_assoc "import".toList [' '] _).symm)
    have hwhole := (hstart.trans hspan).trans hspan'
    simp only [List.append_assoc] at hwhole ⊢
    exact hwhole
  · show ((d.kept.lookup .isStatic).map _).isSome = isStatic
    rw [Option.isSome_map, hkeep, hisStatic]
  · show ((d.kept.lookup .wildcard).map _).isSome = wildcard
    rw [Option.isSome_map, hwildcard, hnone]
    simp

/-- An import that stands alone finds what its name leads to. -/
theorem findings_importText (w : Workspace) (root : Text) :
    findings w root (importText isStatic parts wildcard) =
      importFindings w root (join ['.'] parts) isStatic wildcard 1 := by
  obtain ⟨d, hd, hspan, hsource, hstatic, hwildcard⟩ :=
    exists_first_importDeclaration hne hparts hwords
    (c := .ofText (importText isStatic parts wildcard)) (by simp [Cursor.ofText]) rfl rfl
  have hne : importText isStatic parts wildcard ≠ [] := by
    rw [importText_eq]
    exact List.append_ne_nil_of_left_ne_nil (by decide) _
  have hmatches := findAll_of_whole hne hd hspan fun e he => by
    obtain ⟨_, ⟨htaken, -⟩, _, _, rfl, -, rfl⟩ := takes_of_mem_ends he
    exact absurd htaken (by simp)
  rw [findings, hmatches, findAll_publicType hparts, List.flatMap_singleton, hsource,
    hstatic, hwildcard, List.map_nil, List.append_nil]
  rfl

end Words

/-- The letters over which an import is read before its semicolon. -/
def IsRead (x : Char) : Prop := isDottedChar x = true ∨ isInlineBlank x = true ∨ x = '*'

theorem not_isRead : ¬ IsRead ';' := by
  rintro (h | h | h)
  · exact absurd h (by decide)
  · exact absurd h (by decide)
  · exact absurd h (by decide)

theorem of_takes_importDeclaration (h : importDeclaration.Takes t) :
    ∃ front, t = front ++ [';'] ∧ ∀ x ∈ front, IsRead x := by
  obtain ⟨front, _, rfl, hfront, rfl⟩ := h
  refine ⟨front, rfl, forall_mem_of_takes ?_ hfront⟩
  have hblanks : (many isInlineBlank).Reads IsRead := fun x hx => .inr (.inl hx)
  have hdotted : (many isDottedChar).Reads IsRead := fun _ hx => .inl hx
  have hword {s : String} (hs : ∀ x ∈ s.toList, isDottedChar x = true) :
      (word s).Reads IsRead :=
    fun x hx => .inl (hs x hx)
  have hstar : (word ".*").Reads IsRead :=
    List.forall_mem_cons.2 ⟨.inl (by decide),
      List.forall_mem_singleton.2 (.inr (.inr rfl))⟩
  have hspace : inlineSpace.Reads IsRead := ⟨hblanks, hblanks⟩
  exact
    ⟨⟨⟨⟨⟨⟨⟨trivial, hblanks⟩, hword (by decide)⟩, hspace⟩, ⟨hword (by decide), hspace⟩,
    List.forall_mem_nil _⟩, hdotted, hdotted⟩, hstar, List.forall_mem_nil _⟩, hblanks⟩

/-- A name with a letter that is not read stops every way through an import. -/
theorem findings_of_unread (hparts : ∀ part ∈ parts, IsPart part)
    (hunread : ¬ AreWords parts) (w : Workspace) (root : Text) :
    findings w root (importText isStatic parts wildcard) = [] := by
  simp only [AreWords, not_forall] at hunread
  obtain ⟨part, hpart, x, hx, hword⟩ := hunread
  obtain ⟨hblank, hmark⟩ := (hparts part hpart).plain x hx
  have hno : ¬ IsRead x := by
    rintro (h | h | rfl)
    · rw [isDottedChar, Bool.or_eq_true, decide_eq_true_eq] at h
      exact h.elim hword fun hdot => hmark (hdot ▸ by simp)
    · simp only [isInlineBlank, Bool.or_eq_true, decide_eq_true_eq] at h
      rcases h with rfl | rfl <;> exact absurd hblank (by decide)
    · exact hmark (by simp)
  -- The only semicolon is the last letter, so a way through would read all that stands
  -- before it.
  have himports : importDeclaration.findAll (importText isStatic parts wildcard) =
      [] := by
    refine findAll_eq_nil_of_line startsLine_importDeclaration
      (notMem_importText hparts) ?_
    refine matchAt_eq_none fun e he => ?_
    obtain ⟨_, ⟨htaken, -⟩, htakes⟩ := takes_of_mem_ends he
    obtain ⟨front, rfl, hfront⟩ := of_takes_importDeclaration htakes
    have hsplit : importBody isStatic parts wildcard ++ ';' :: [] =
        front ++ ';' :: e.rest :=
      htaken.trans (List.append_assoc front [';'] e.rest)
    have hbody : ∀ y ∈ importBody isStatic parts wildcard, decide (y = ';') = false :=
      fun y hy => decide_eq_false fun h => notMem_importBody hparts (.inr rfl) (h ▸ hy)
    have hbefore : ∀ y ∈ front, decide (y = ';') = false :=
      fun y hy => decide_eq_false fun h => not_isRead (h ▸ hfront y hy)
    obtain ⟨rfl, -⟩ := eq_of_first  hbody hbefore rfl rfl hsplit
    exact hno (hfront x (mem_importBody hpart hx))
  rw [findings, himports, findAll_publicType hparts]
  rfl

end Declaration

end Rules.Java

/-! ## Where a name leads -/

namespace Resolve

open Text ImpactGraph.Path Rules.Java

variable {w : Workspace} {root source member : Text} {parts : List Text}

/-- Where the class of a qualified name is kept below a source root. -/
def classFile (w : Workspace) (root : Text) (parts : List Text) (source : Text) : Text :=
  w.canonical root (Path.join source (joinAll [] parts ++ ".java".toList))

/-- Where the package of a qualified name is kept below a source root. -/
def packageDirectory (w : Workspace) (root : Text) (parts : List Text)
    (source : Text) : Text :=
  w.canonical root (Path.join source (joinAll [] parts))

theorem split_join_parts (hparts : ∀ part ∈ parts, IsPart part) (hne : parts ≠ []) :
    split '.' (Text.join ['.'] parts) = parts :=
  split_join hne fun part hpart => (hparts part hpart).notMem (.inr (by decide))

theorem java_class (w : Workspace) (root : Text) (hparts : ∀ part ∈ parts, IsPart part)
    (hne : parts ≠ []) : java w root (Text.join ['.'] parts) false false =
      ((javaSourceRoots.map (classFile w root parts)).find? w.isFile).getD
        (classFile w root parts []) := by
  simp only [java, javaRelative, split_join_parts hparts hne, Bool.false_and,
    Bool.false_eq_true, if_false, classFile, join_nil]
  rfl

/-- The name of a member is left out, so a member leads where its class does. -/
theorem java_member (w : Workspace) (root : Text) (hparts : ∀ part ∈ parts, IsPart part)
    (hne : parts ≠ []) (hmember : IsPart member) :
    java w root (Text.join ['.'] (parts ++ [member])) true false =
      java w root (Text.join ['.'] parts) false false := by
  have hall : ∀ part ∈ parts ++ [member], IsPart part :=
    List.forall_mem_append.2 ⟨hparts, List.forall_mem_singleton.2 hmember⟩
  have hmore : 1 < (parts ++ [member]).length := by
    have := List.length_pos_of_ne_nil hne
    simp
    omega
  have hdrop : javaRelative (Text.join ['.'] (parts ++ [member])) true false =
      javaRelative (Text.join ['.'] parts) false false := by
    simp only [javaRelative, split_join_parts hparts hne, split_join_parts hall (by simp),
      Bool.true_and, Bool.not_false, decide_eq_true hmore, if_true, List.dropLast_concat,
      Bool.false_and, Bool.false_eq_true, if_false]
  simp only [java, hdrop]

/-- A star stands for a directory, whatever the name before it names. -/
theorem java_star (hparts : ∀ part ∈ parts, IsPart part) (hne : parts ≠ [])
    (isStatic : Bool)
    (hdirectory : ∀ source ∈ javaSourceRoots,
      w.isDirectory (packageDirectory w root parts source) = false) :
    java w root (Text.join ['.'] parts) isStatic true =
      packageDirectory w root parts [] := by
  have hnone : (javaSourceRoots.map (packageDirectory w root parts)).find? w.isDirectory =
      none := by
    rw [List.find?_eq_none]
    rintro _ hmem
    obtain ⟨source, hsource, rfl⟩ := List.mem_map.1 hmem
    simp [hdirectory source hsource]
  have hpackage : java w root (Text.join ['.'] parts) isStatic true =
      ((javaSourceRoots.map (packageDirectory w root parts)).find? w.isDirectory).getD
        (packageDirectory w root parts []) := by
    simp only [java, javaRelative, split_join_parts hparts hne, Bool.not_true,
      Bool.and_false, Bool.false_and, Bool.false_eq_true, if_false, if_true,
      packageDirectory, join_nil]
    rfl
  rw [hpackage, hnone, Option.getD_none]

/-! ## Files are not directories -/

theorem join_joinAll_nil {pieces : List Text} (hne : pieces ≠ []) (base : Text) :
    Path.join base (joinAll [] pieces) = joinAll base pieces := by
  obtain ⟨piece, pieces, rfl⟩ := List.exists_cons_of_ne_nil hne
  show Path.join base (joinAll (Path.join [] piece) pieces) =
    joinAll (Path.join base piece) pieces
  rw [join_joinAll, join_nil]

theorem exists_sourceNames (h : source ∈ javaSourceRoots) :
    ∃ names, (∀ name ∈ names, IsName name) ∧ source = joinAll [] names := by
  simp only [javaSourceRoots, List.mem_cons, List.not_mem_nil, or_false] at h
  rcases h with rfl | rfl | rfl
  · exact ⟨[], List.forall_mem_nil _, rfl⟩
  · exact ⟨["src".toList, "main".toList, "java".toList], by decide, by decide⟩
  · exact ⟨["src".toList], by decide, by decide⟩

/-- The last component of a path that is put together below a source root stays its
last. -/
theorem baseName_canonical {names : List Text} {last : Text}
    (hsource : source ∈ javaSourceRoots)
    (hnames : ∀ name ∈ names ++ [last], IsName name) :
    baseName (w.canonical root (Path.join source (joinAll [] (names ++ [last])))) =
      last := by
  obtain ⟨front, hfront, rfl⟩ := exists_sourceNames hsource
  have hroot : IsId (absolute w.cwd root) := isId_normal _
  have hall : ∀ name ∈ front ++ (names ++ [last]), IsName name :=
    List.forall_mem_append.2 ⟨hfront, hnames⟩
  have hjoin : Path.join (joinAll [] front) (joinAll [] (names ++ [last])) =
      joinAll [] (front ++ (names ++ [last])) := by
    rw [join_joinAll_nil (by simp), ← joinAll_append]
  have hcanonical : w.canonical root (joinAll [] (front ++ (names ++ [last]))) =
      joinAll (absolute w.cwd root) (front ++ names ++ [last]) := by
    rw [Workspace.canonical, canonical_eq_normal_join, ← canonical_of_isId hroot w.cwd,
      canonical_joinAll hroot (by simp), (hroot.joinAll hall).normal_eq,
      List.append_assoc]
  rw [← List.append_assoc] at hall
  rw [hjoin, hcanonical, baseName_joinAll hroot hall]

theorem packageDirectory_ne_classFile (hparts : ∀ part ∈ parts, IsPart part)
    (hne : parts ≠ []) (hsource : source ∈ javaSourceRoots) :
    packageDirectory w root parts [] ≠ classFile w root parts source := by
  obtain ⟨front, last, rfl⟩ := (List.eq_nil_or_concat parts).resolve_left hne
  rw [List.concat_eq_append] at hparts ⊢
  have hnames : ∀ name ∈ front ++ [last], IsName name := fun name hname =>
    (hparts name hname).isName
  have hlast : IsName last := hnames last (by simp)
  have hfile : joinAll [] (front ++ [last]) ++ ".java".toList =
      joinAll [] (front ++ [last ++ ".java".toList]) := by
    rw [joinAll_append, joinAll_append]
    exact join_append hlast.ne_nil _ _
  have hnamesFile : ∀ name ∈ front ++ [last ++ ".java".toList], IsName name :=
    List.forall_mem_append.2 ⟨(List.forall_mem_append.1 hnames).1,
      List.forall_mem_singleton.2 (hlast.append (by decide))⟩
  intro h
  have hbase := congrArg baseName h
  rw [classFile, hfile, packageDirectory, baseName_canonical hsource hnamesFile,
    baseName_canonical (by decide) hnames] at hbase
  simp at hbase

end Resolve

/-! ## The three imports -/

namespace Rules.Java

open Text ImpactGraph.Path Resolve

variable {w : Workspace} {root file target member : Text} {parts : List Text}
  {isStatic wildcard : Bool}

/-- The facts of a file that holds one import and nothing else. -/
def importFacts (w : Workspace) (root file : Text) (isStatic : Bool) (parts : List Text)
    (wildcard : Bool) : FileFacts :=
  .ofFindings file .java (findings w root (importText isStatic parts wildcard))

/-- All that a file imports comes from one place. -/
structure LeadsTo (facts : FileFacts) (target : Text) : Prop where
  imports : facts.imports.map (·.target) = [target]
  edges : facts.edges = [target]

theorem leadsTo_importFacts (hne : parts ≠ []) (hparts : ∀ part ∈ parts, IsPart part)
    (hwords : AreWords parts)
    (htarget : java w root (Text.join ['.'] parts) isStatic wildcard = target) :
    LeadsTo (importFacts w root file isStatic parts wildcard) target := by
  rw [importFacts, findings_importText hne hparts hwords, FileFacts.ofFindings_eq,
    importFindings, htarget]
  refine ⟨?_, rfl⟩
  cases wildcard <;> rfl

/-- A class in a file is found by its name and by the name of a member, if every part of
the name is a word. The import of all its static members leads to the package of that name
instead, which there need not be. With any other letter in a name nothing is recorded. -/
theorem static_star_misses_class (w : Workspace) (root file : Text)
    (hparts : ∀ part ∈ parts, IsPart part) (hne : parts ≠ []) (hmember : IsPart member)
    (hfile : ∃ source ∈ javaSourceRoots, w.isFile (classFile w root parts source) = true)
    (hdirectory : ∀ source ∈ javaSourceRoots,
      w.isDirectory (packageDirectory w root parts source) = false) :
    ∃ target,
      w.Chooses (javaSourceRoots.map (classFile w root parts))
        (classFile w root parts []) target ∧
      w.isFile target = true ∧ packageDirectory w root parts [] ≠ target ∧
      (AreWords parts →
        LeadsTo (importFacts w root file false parts false) target ∧
        (AreWords [member] →
          LeadsTo (importFacts w root file true (parts ++ [member]) false) target) ∧
        LeadsTo (importFacts w root file true parts true)
          (packageDirectory w root parts [])) ∧
      ∀ isStatic wildcard, ∀ all ∈ [parts, parts ++ [member]], ¬ AreWords all →
        importFacts w root file isStatic all wildcard =
          { file := file, language := some .java } := by
  have hall : ∀ part ∈ parts ++ [member], IsPart part :=
    List.forall_mem_append.2 ⟨hparts, List.forall_mem_singleton.2 hmember⟩
  obtain ⟨target, hfind⟩ : ∃ target,
    (javaSourceRoots.map (classFile w root parts)).find? w.isFile =
      some target := by
    obtain ⟨source, hsource, hfound⟩ := hfile
    exact Option.isSome_iff_exists.1
      (List.find?_isSome.2 ⟨_, List.mem_map_of_mem hsource, hfound⟩)
  have hclass : java w root (Text.join ['.'] parts) false false = target := by
    rw [java_class w root hparts hne, hfind, Option.getD_some]
  refine ⟨target, ?_, List.find?_some hfind, ?_, fun hwords =>
    ⟨?_, fun hword => ?_, ?_⟩, ?_⟩
  · have hchosen := w.chooses_find?_getD (javaSourceRoots.map (classFile w root parts))
      (classFile w root parts [])
    rwa [hfind] at hchosen
  · obtain ⟨source, hsource, rfl⟩ := List.mem_map.1 (List.mem_of_find?_eq_some hfind)
    exact packageDirectory_ne_classFile hparts hne hsource
  · exact leadsTo_importFacts hne hparts hwords hclass
  · have hwords' : AreWords (parts ++ [member]) :=
      List.forall_mem_append.2 ⟨hwords, hword⟩
    exact leadsTo_importFacts (by simp) hall hwords'
      ((java_member w root hparts hne hmember).trans hclass)
  · exact leadsTo_importFacts hne hparts hwords (java_star hparts hne true hdirectory)
  · intro isStatic wildcard all hmem hunread
    have hparts' : ∀ part ∈ all, IsPart part := by
      rcases List.mem_pair.1 hmem with rfl | rfl
      · exact hparts
      · exact hall
    rw [importFacts, findings_of_unread hparts' hunread]
    rfl

/-- A project with one class below the last source root. -/
def classProject : Workspace where
  cwd := "/p".toList
  tree := .directory [("p".toList, .directory
    [("src".toList,
      .directory [("a".toList, .directory [("C.java".toList, .file [])])])])]

theorem static_star_misses_class_of_classProject :
    let root := "/p".toList
    let file := "/p/src/D.java".toList
    let parts := ["a".toList, "C".toList]
    let target := "/p/src/a/C.java".toList
    LeadsTo (importFacts classProject root file false parts false) target ∧
      LeadsTo (importFacts classProject root file true (parts ++ ["m".toList]) false)
        target ∧
      LeadsTo (importFacts classProject root file true parts true) "/p/a/C".toList ∧
      importFacts classProject root file true (parts ++ ["m$".toList]) false =
        { file := file, language := some .java } := by
  intro root file parts target
  have hparts : ∀ part ∈ parts, IsPart part := by decide
  have hfile : ∃ source ∈ javaSourceRoots,
      classProject.isFile (classFile classProject root parts source) = true :=
    ⟨"src".toList, by decide, by decide⟩
  have hdirectory : ∀ source ∈ javaSourceRoots,
      classProject.isDirectory (packageDirectory classProject root parts source) =
        false := by
    decide
  obtain ⟨found, hchosen, hfound, -, hwords, -⟩ :=
    static_star_misses_class classProject root file hparts
    (by decide) (by decide : IsPart "m".toList) hfile hdirectory
  obtain ⟨-, -, -, -, -, hunread⟩ :=
    static_star_misses_class classProject root file hparts
    (by decide) (by decide : IsPart "m$".toList) hfile hdirectory
  have hcandidates : javaSourceRoots.map (classFile classProject root parts) =
      ["/p/a/C.java".toList, "/p/src/main/java/a/C.java".toList, target] := by decide
  have hmem : found ∈ javaSourceRoots.map (classFile classProject root parts) := by
    cases hchosen with
    | first hsplit => simp [hsplit]
    | fallback => exact List.mem_map_of_mem (by decide)
  have hnone : classProject.isFile "/p/a/C.java".toList = false ∧
      classProject.isFile "/p/src/main/java/a/C.java".toList = false := by decide
  obtain rfl : found = target := by
    simp only [hcandidates, List.mem_cons, List.not_mem_nil, or_false] at hmem
    rcases hmem with rfl | rfl | rfl
    · exact absurd (hnone.1.symm.trans hfound) Bool.false_ne_true
    · exact absurd (hnone.2.symm.trans hfound) Bool.false_ne_true
    · rfl
  have hstar : packageDirectory classProject root parts [] = "/p/a/C".toList := by decide
  obtain ⟨hclass, hmember, hpackage⟩ := hwords (by decide)
  rw [hstar] at hpackage
  exact ⟨hclass, hmember (by decide), hpackage,
    hunread true false _ (by simp) (by decide)⟩

/-- All static members of a class that is there are looked for in a package that is
not. -/
theorem static_star_of_classProject :
    let parts := ["a".toList, "C".toList]
    let named :=
      importFacts classProject "/p".toList "/p/src/D.java".toList false parts false
    let starred :=
      importFacts classProject "/p".toList "/p/src/D.java".toList true parts true
    classProject.isFile "/p/src/a/C.java".toList = true ∧
      (∀ source ∈ javaSourceRoots,
        classProject.isDirectory
          (packageDirectory classProject "/p".toList parts source) = false) ∧
      named.edges = ["/p/src/a/C.java".toList] ∧ starred.edges = ["/p/a/C".toList] ∧
      named.edges ≠ starred.edges := by
  intro parts named starred
  have hparts : ∀ part ∈ parts, IsPart part := by decide
  have hwords : AreWords parts := by decide
  have hnamed : named.edges = ["/p/src/a/C.java".toList] :=
    (leadsTo_importFacts (by decide) hparts hwords (by decide)).edges
  have hstarred : starred.edges = ["/p/a/C".toList] :=
    (leadsTo_importFacts (by decide) hparts hwords (by decide)).edges
  refine ⟨by decide, by decide, hnamed, hstarred, ?_⟩
  rw [hnamed, hstarred]
  decide

end Rules.Java

end ImpactGraph
