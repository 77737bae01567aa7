import Mathlib.Data.List.Nodup
import Mathlib.Data.List.TakeWhile
import ImpactGraph.Proofs.CallSites
import ImpactGraph.Proofs.RecordedFindings

/-!
# The calls of a file

The calls of a file are its call sites, some of them left out, each with the
line it is on and the definition it stands in. What a site is was said without
the search; here the same is done for definitions. They are the matches of one
or two patterns, and a caller is sought by going through them until one is past
the call. That finds the nearest definition because no two names of definitions
are at one place and the list is in their order: matches of one pattern do not
overlap, and in front of a name of the one pattern is `function` or a star, in
front of one of the other a word that declares a binding.
-/

namespace ImpactGraph

open Text Pattern Rules

/-! ## The nearest definition -/

/-- The name of the definition with the greatest offset below another one. -/
inductive IsCaller (Defines : Definition → Prop) (offset : Nat) : Text → Prop
  | module (hnone : ∀ d, Defines d → offset ≤ d.offset) :
      IsCaller Defines offset "<module>".toList
  | definition (d : Definition) (hdefines : Defines d) (hbefore : d.offset < offset)
      (hlast : ∀ e, Defines e → e.offset < offset → e.offset ≤ d.offset) :
        IsCaller Defines offset d.name

section Enclosing

variable {definitions : List Definition} {offset : Nat}

theorem le_of_mem_dropWhile (h : definitions.Pairwise (·.offset < ·.offset)) :
    ∀ d ∈ definitions.dropWhile (·.offset < offset), offset ≤ d.offset := by
  have hsorted := h.sublist (List.dropWhile_suffix (·.offset < offset)).sublist
  have hhead :=
    List.head?_dropWhile_not (fun d : Definition => d.offset < offset) definitions
  intro d hd
  cases hdrop : definitions.dropWhile (·.offset < offset) with
  | nil =>
      rw [hdrop] at hd
      exact absurd hd List.not_mem_nil
  | cons e rest =>
      rw [hdrop] at hd hsorted hhead
      have he : offset ≤ e.offset := by simpa using hhead
      rcases List.mem_cons.1 hd with rfl | hd
      · exact he
      · have hlt := (List.pairwise_cons.1 hsorted).1 d hd
        omega

theorem isCaller_enclosing (h : definitions.Pairwise (·.offset < ·.offset))
    (offset : Nat) :
    IsCaller (· ∈ definitions) offset (enclosing definitions offset) := by
  have hsplit := List.takeWhile_append_dropWhile (p := fun d : Definition =>
    decide (d.offset < offset))
    (l := definitions)
  have hpast := @le_of_mem_dropWhile definitions offset h
  unfold enclosing
  split
  · next d hd =>
      obtain ⟨front, hfront⟩ := List.getLast?_eq_some_iff.1 hd
      have hmem : d ∈ definitions.takeWhile (·.offset < offset) := List.mem_of_getLast? hd
      -- What is before the offset is in the front, of which `d` is the last.
      refine .definition d ((List.takeWhile_prefix _).subset hmem) ?_
        fun e he hbefore => ?_
      · simpa using List.mem_takeWhile_imp hmem
      · rw [← hsplit, List.mem_append] at he
        rcases he with he | he
        · rw [← hsplit, List.pairwise_append, hfront, List.pairwise_append] at h
          rw [hfront] at he
          rcases List.mem_append.1 he with he | he
          · have hlt := h.1.2.2 e he d List.mem_cons_self
            omega
          · rw [List.mem_singleton.1 he]
        · have hle := hpast e he
          omega
  · next hnil =>
      rw [List.getLast?_eq_none_iff] at hnil
      rw [hnil, List.nil_append] at hsplit
      rw [hsplit] at hpast
      exact .module hpast

end Enclosing

/-! ## Definitions in their order -/

/-- The patterns whose matches define a name in a language. -/
def definitionPatterns : Language → List Pattern
  | .typescript | .javascript =>
    [JavaScript.functionDefinition, JavaScript.arrowDefinition]
  | .python => [Python.anyDefinition]
  | .go | .java | .rust => []

/-- A match of one of the patterns has the name at the offset. -/
def IsDefinition (language : Language) (content : Text) (d : Definition) : Prop :=
  ∃ p ∈ definitionPatterns language, ∃ m ∈ p.findAll content,
    m.startOf .name = d.offset ∧ m.part .name = d.name

/-- The last character in front of an offset that is no blank is one of some. -/
def LastBefore (marks content : Text) (offset : Nat) : Prop :=
  ∃ s x gap v, content = s ++ x :: gap ++ v ∧
    offset = (s ++ x :: gap).length ∧ x ∈ marks ∧
    isBlank x = false ∧ ∀ c ∈ gap, isBlank c = true

section Definitions

variable {p q pre : Pattern} {posts : List Pattern} {content : Text} {d e : Definition}

theorem mem_definitionsOf_iff :
    d ∈ definitionsOf p content ↔
      ∃ m ∈ p.findAll content, m.startOf .name = d.offset ∧ m.part .name = d.name := by
  rw [definitionsOf, List.mem_map]
  refine exists_congr fun m => and_congr_right fun _ => ?_
  cases d
  simp

/-- Matches that keep a name define their names in the order of the text. -/
theorem pairwise_definitionsOf (hposts : ∀ post ∈ posts, post.Keeps .name fun _ => False)
    (hq : ¬ q.Takes []) (content : Text) :
    (definitionsOf (posts.foldl append (pre ++ keep .name q)) content).Pairwise
      (·.offset < ·.offset) := by
  rw [definitionsOf, List.pairwise_map]
  refine (pairwise_findAll _ content).imp_of_mem fun {m n} hm hn hle => ?_
  obtain ⟨u, a, b, v, -, hstart, hoffset, htext, -, hname⟩ :=
    exists_part_of_mem_findAll hposts hm
  obtain ⟨u', a', b', v', -, hstart', hoffset', -⟩ := exists_part_of_mem_findAll hposts hn
  have hpos : 0 < (m.part .name).length := List.length_pos_iff.2 fun hnil =>
    hq (hnil ▸ hname)
  show m.startOf .name < n.startOf .name
  rw [htext] at hle
  simp only [List.length_append] at hle hoffset hoffset'
  omega

theorem lastBefore_of_mem_definitionsOf {marks : Text}
    (hposts : ∀ post ∈ posts, post.Keeps .name fun _ => False)
    (hpre : ∀ a, pre.Takes a → ∃ s x gap, a = s ++ x :: gap ∧ x ∈ marks ∧
      isBlank x = false ∧
      ∀ c ∈ gap, isBlank c = true)
    (h : d ∈ definitionsOf (posts.foldl append (pre ++ keep .name q)) content) :
    LastBefore marks content d.offset := by
  obtain ⟨m, hm, hoffset, -⟩ := mem_definitionsOf_iff.1 h
  obtain ⟨u, a, b, v, hcontent, -, hstart, -, ha, -⟩ :=
    exists_part_of_mem_findAll hposts hm
  obtain ⟨s, x, gap, rfl, hx, hblank, hgap⟩ := hpre a ha
  refine ⟨u ++ s, x, gap, m.part .name ++ b ++ v, ?_, ?_, hx, hblank, hgap⟩
  · rw [hcontent]
    simp
  · rw [← hoffset, hstart, List.append_assoc]

/-- Two names at one place have one character in front of them. -/
theorem LastBefore.exists_mem {marks others : Text} {offset : Nat}
    (h : LastBefore marks content offset) (h' : LastBefore others content offset) :
    ∃ x ∈ marks, x ∈ others := by
  obtain ⟨s, x, gap, v, hcontent, hoffset, hx, hblank, hgap⟩ := h
  obtain ⟨s', y, gap', v', hcontent', hoffset', hy, hblank', hgap'⟩ := h'
  obtain ⟨hsame, -⟩ :=
    List.append_inj (hcontent.symm.trans hcontent') (hoffset.symm.trans hoffset')
  obtain ⟨-, rfl, -⟩ := eq_of_last_letter hgap hgap' hblank hblank' hsame
  exact ⟨x, hx, hy⟩

theorem Definition.le_trans {a b c : Definition} (hab : a.le b = true)
    (hbc : b.le c = true) : a.le c = true := by
  simp only [Definition.le, Bool.or_eq_true, Bool.and_eq_true,
    decide_eq_true_eq] at hab hbc ⊢
  rcases hab with hab | ⟨hab, hnames⟩
  · rcases hbc with hbc | ⟨hbc, -⟩
    · exact .inl (by omega)
    · exact .inl (by omega)
  · rcases hbc with hbc | ⟨hbc, hnames'⟩
    · exact .inl (by omega)
    · exact .inr ⟨by omega, Text.le_trans hnames hnames'⟩

theorem Definition.le_total (a b : Definition) : (a.le b || b.le a) = true := by
  have hnames := Text.le_total a.name b.name
  simp only [Definition.le, Bool.or_eq_true, Bool.and_eq_true,
    decide_eq_true_eq] at hnames ⊢
  rcases Nat.lt_trichotomy a.offset b.offset with h | h | h
  · exact .inl (.inl h)
  · exact hnames.imp (fun hle => .inr ⟨h, hle⟩) fun hle => .inr ⟨h.symm, hle⟩
  · exact .inr (.inl h)

end Definitions

/-! ## The definitions of each language -/

namespace Rules

variable {content : Text} {d : Definition}

theorem not_takes_many1_nil {test : Char → Bool} : ¬ (many1 test).Takes [] :=
  fun h => (takes_many1.1 h).1 rfl

namespace JavaScript

/-- What follows the name where a function is defined. -/
def behindFunction : List Pattern := [gap, word "("]

/-- What follows the name where a binding takes a function. -/
def behindArrow : List Pattern :=
  [gap, typeAnnotation, word "=", gap, (word "async" ++ space).optional,
  anyOf [word "function" ++ boundary,
    word "(" ++ many (· ≠ ')') ++ word ")" ++ gap ++ typeAnnotation ++ word "=>",
    identifier ++ gap ++ word "=>"]]

theorem functionDefinition_eq : functionDefinition = behindFunction.foldl append
    (boundary ++ (word "async" ++ space).optional ++ word "function" ++ gap ++
      (word "*").optional ++ gap ++
      keep .name identifier) := rfl

theorem arrowDefinition_eq : arrowDefinition = behindArrow.foldl append
    (boundary ++ bindingWord ++ space ++ keep .name identifier) := rfl

theorem keeps_behindFunction : ∀ post ∈ behindFunction,
    post.Keeps .name fun _ => False := by
  simp [behindFunction, gap, Keeps]

theorem keeps_behindArrow : ∀ post ∈ behindArrow, post.Keeps .name fun _ => False := by
  simp [behindArrow, gap, typeAnnotation, space, anyOf, identifier, Keeps]

/-- In front of the name of a function is the word or a star. -/
theorem lastBefore_function (h : d ∈ definitionsOf functionDefinition content) :
    LastBefore ['n', '*'] content d.offset := by
  rw [functionDefinition_eq] at h
  refine lastBefore_of_mem_definitionsOf keeps_behindFunction ?_ h
  rintro _ ⟨_, blanks, rfl, hword, hblanks⟩
  obtain ⟨_, star, rfl, ⟨_, more, rfl, ⟨start, _, rfl, -, rfl⟩, hmore⟩, hstar⟩ := hword
  rcases hstar with rfl | rfl
  · exact ⟨start ++ "function".toList ++ more, '*', blanks, by simp, by simp, by
      decide, hblanks⟩
  · refine ⟨start ++ "functio".toList, 'n', more ++ blanks, by simp, by
      simp, by decide, ?_⟩
    exact List.forall_mem_append.2 ⟨hmore, hblanks⟩

/-- In front of the name of a binding is one of three words. -/
theorem lastBefore_arrow (h : d ∈ definitionsOf arrowDefinition content) :
    LastBefore ['t', 'r'] content d.offset := by
  rw [arrowDefinition_eq] at h
  refine lastBefore_of_mem_definitionsOf keeps_behindArrow ?_ h
  rintro _ ⟨_, blanks, rfl, ⟨_, declared, rfl, rfl, hdeclared⟩, hblanks⟩
  obtain ⟨-, hblanks⟩ := takes_many1.1 hblanks
  rcases hdeclared with rfl | rfl | rfl
  · exact ⟨"cons".toList, 't', blanks, by simp, by simp, by decide, hblanks⟩
  · exact ⟨"le".toList, 't', blanks, by simp, by simp, by decide, hblanks⟩
  · exact ⟨"va".toList, 'r', blanks, by simp, by simp, by decide, hblanks⟩

/-- No name is at one place for both patterns. -/
theorem pairwise_ne_definitions (content : Text) :
    (definitionsOf functionDefinition content ++
      definitionsOf arrowDefinition content).Pairwise
      (·.offset ≠ ·.offset) := by
  have hfunctions :
      (definitionsOf functionDefinition content).Pairwise (·.offset < ·.offset) := by
    rw [functionDefinition_eq]
    exact pairwise_definitionsOf keeps_behindFunction not_takes_many1_nil content
  have harrows :
      (definitionsOf arrowDefinition content).Pairwise (·.offset < ·.offset) := by
    rw [arrowDefinition_eq]
    exact pairwise_definitionsOf keeps_behindArrow not_takes_many1_nil content
  refine List.pairwise_append.2 ⟨hfunctions.imp Nat.ne_of_lt,
    harrows.imp Nat.ne_of_lt, ?_⟩
  -- Across the two lists the offsets say nothing: the character in front of the name
  -- tells them apart.
  intro f hf g hg he
  obtain ⟨x, hx, hx'⟩ := (lastBefore_function hf).exists_mem (he ▸ lastBefore_arrow hg)
  simp only [List.mem_cons, List.not_mem_nil, or_false] at hx hx'
  rcases hx with rfl | rfl
  · exact absurd hx' (by decide)
  · exact absurd hx' (by decide)

theorem mem_definitions_iff {language : Language}
    (h : language = .typescript ∨ language = .javascript) :
    d ∈ definitions content ↔ IsDefinition language content d := by
  have hpatterns : definitionPatterns language =
      [functionDefinition, arrowDefinition] := by
    rcases h with rfl | rfl <;> rfl
  rw [definitions, List.mem_mergeSort, List.mem_append, mem_definitionsOf_iff,
    mem_definitionsOf_iff, IsDefinition, hpatterns]
  simp

/-- Sorted by their offsets, of which no two are the same, definitions are in strict
order. -/
theorem pairwise_definitions (content : Text) :
    (definitions content).Pairwise (·.offset < ·.offset) := by
  have hsorted :=
    @List.pairwise_mergeSort _ Definition.le (fun _ _ _ => Definition.le_trans)
    Definition.le_total (definitionsOf functionDefinition content ++
      definitionsOf arrowDefinition content)
  have hperm := (List.mergeSort_perm (definitionsOf functionDefinition content ++
    definitionsOf arrowDefinition content) Definition.le).symm
  have hapart := hperm.pairwise (pairwise_ne_definitions content) fun h => Ne.symm h
  refine hsorted.imp₂ (fun f g hle hne => ?_) hapart
  simp only [Definition.le, Bool.or_eq_true, Bool.and_eq_true, decide_eq_true_eq] at hle
  omega

end JavaScript

theorem Python.pairwise_anyDefinition (content : Text) :
    (definitionsOf anyDefinition content).Pairwise (·.offset < ·.offset) :=
  @pairwise_definitionsOf _ _ [] (List.forall_mem_nil _) not_takes_many1_nil content

end Rules

/-! ## Calls -/

/-- The call sites whose names are known, not imported, and not being defined there. -/
def countedSites (content : Text) (definitions : List Definition)
    (known imported : List Text) : List (Nat × Text) :=
  (callSites content).filter fun site => site.2 ∈ known && !(site.2 ∈ imported) &&
    !definitions.any (·.offset = site.1)

section Counted

variable {content : Text} {definitions : List Definition} {known imported : List Text}
  {site : Nat × Text}

theorem mem_countedSites_iff :
    site ∈ countedSites content definitions known imported ↔
      IsCallSite content site.1 site.2 ∧
      site.2 ∈ known ∧ site.2 ∉ imported ∧ ∀ d ∈ definitions, d.offset ≠ site.1 := by
  rw [countedSites, List.mem_filter, mem_callSites_iff]
  simp [and_assoc]

theorem pairwise_countedSites :
    (countedSites content definitions known imported).Pairwise (·.1 < ·.1) :=
  (pairwise_callSites content).filter _

theorem callsBetween_eq (content : Text) (definitions : List Definition)
    (known imported : List Text) :
    callsBetween content definitions known imported =
      (countedSites content definitions known imported).map fun site =>
        ⟨enclosing definitions site.1, site.2, lineAt content site.1⟩ := by
  have hmatches : ∀ m ∈ callSite.findAll content, m.startOf .name = m.start :=
    fun m hm => (isCallSite_of_mem_findAll hm).2.1
  rw [callsBetween, countedSites, callSites]
  generalize callSite.findAll content = found at hmatches ⊢
  induction found with
  | nil => rfl
  | cons m ms ih =>
      obtain ⟨hm, hms⟩ := List.forall_mem_cons.1 hmatches
      rw [List.filterMap_cons, List.map_cons, List.filter_cons, ih hms, hm]
      by_cases himported : m.part .name ∈ imported
      · simp [himported]
      · by_cases hknown : m.part .name ∈ known
        · cases definitions.any (·.offset = m.start) with
          | false => simp [himported, hknown]
          | true => simp [himported, hknown]
        · simp [himported, hknown]

end Counted

/-- The name under which an import is known in a file: of a dotted one, its first part. -/
def boundName : Language → Import → Text
  | .python, i => before ['.'] i.localName
  | _, i => i.localName

section Recorded

variable {e : Extractor} {file content : Text} {language : Language}

theorem exists_definitions (h : language ∈ [.typescript, .javascript, .python])
    (content : Text) (facts : FileFacts) :
    ∃ definitions : List Definition, definitions.Pairwise (·.offset < ·.offset) ∧
      (∀ d, d ∈ definitions ↔ IsDefinition language content d) ∧
      innerCalls content facts language = callsBetween content definitions
        (facts.exports ++ definitions.map (·.name))
          (facts.imports.map (boundName language)) := by
  simp only [List.mem_cons, List.not_mem_nil, or_false] at h
  rcases h with rfl | rfl | rfl
  · exact ⟨_, JavaScript.pairwise_definitions content, fun d =>
      JavaScript.mem_definitions_iff (.inl rfl), rfl⟩
  · exact ⟨_, JavaScript.pairwise_definitions content, fun d =>
      JavaScript.mem_definitions_iff (.inr rfl), rfl⟩
  · refine ⟨_, Python.pairwise_anyDefinition content, fun d => ?_, rfl⟩
    rw [mem_definitionsOf_iff, IsDefinition, definitionPatterns]
    simp

theorem exists_extract_eq (hcalls : e.recordCalls = true)
    (hfile : Language.ofPath? file = some language)
    (h : language ∈ [.typescript, .javascript, .python]) (content : Text) :
    ∃ facts : FileFacts,
      e.extract file content =
        .ok { facts with calls := innerCalls content facts language } := by
  obtain ⟨found, hfound⟩ : ∃ found, findings e.workspace e.root file content language =
      .ok found := by
    simp only [List.mem_cons, List.not_mem_nil, or_false] at h
    rcases h with rfl | rfl | rfl
    · exact ⟨_, rfl⟩
    · exact ⟨_, rfl⟩
    · exact ⟨_, rfl⟩
  refine ⟨FileFacts.ofFindings file language found,
    (Extractor.extract_of_findings hfile hfound).trans ?_⟩
  rw [if_pos hcalls]

/-- The calls of a file are, in the order of the text, its call sites whose names are
exported or defined in it and not imported, those aside where a name is being defined;
each with its line and with the nearest definition before it, of which there is only
one. -/
theorem inner_calls_of_extract (hcalls : e.recordCalls = true)
    (hfile : Language.ofPath? file = some language)
    (hlanguage : language ∈ [.typescript, .javascript, .python]) (content : Text) :
    ∃ (facts : FileFacts) (sites : List (Nat × Text)),
      e.extract file content = .ok facts ∧
      sites.Pairwise (·.1 < ·.1) ∧
      (∀ s, s ∈ sites ↔ IsCallSite content s.1 s.2 ∧
        (s.2 ∈ facts.exports ∨ ∃ d, IsDefinition language content d ∧ d.name = s.2) ∧
        (∀ i ∈ facts.imports, boundName language i ≠ s.2) ∧
        ∀ d, IsDefinition language content d → d.offset ≠ s.1) ∧
      List.Forall₂ (fun s call => call.callee = s.2 ∧ call.line = lineAt content s.1 ∧
        IsCaller (IsDefinition language content) s.1 call.caller) sites facts.calls ∧
      ∀ d d', IsDefinition language content d → IsDefinition language content d' →
        d.offset = d'.offset →
        d = d' := by
  obtain ⟨facts, hfacts⟩ := exists_extract_eq hcalls hfile hlanguage content
  obtain ⟨definitions, hsorted, hdefines, hinner⟩ :=
    exists_definitions hlanguage content facts
  have hoffsets : (definitions.map (·.offset)).Nodup :=
    List.pairwise_map.2 (hsorted.imp Nat.ne_of_lt)
  rw [hinner, callsBetween_eq] at hfacts
  refine ⟨_, countedSites content definitions (facts.exports ++ definitions.map (·.name))
    (facts.imports.map (boundName language)), hfacts, pairwise_countedSites,
    fun s => mem_countedSites_iff.trans ?_, ?_, fun d d' hd hd' => ?_⟩
  · simp [← hdefines]
  · refine List.forall₂_map_right_iff.2 (List.forall₂_same.2 fun s _ => ⟨rfl, rfl, ?_⟩)
    have hcaller := isCaller_enclosing hsorted s.1
    simpa only [hdefines] using hcaller
  · exact List.inj_on_of_nodup_map hoffsets ((hdefines d).2 hd) ((hdefines d').2 hd')

end Recorded

/-- A script on its own. -/
def oneScript : Workspace where
  cwd := "/p".toList
  tree := .directory [("p".toList, .directory [("run.py".toList, .file [])])]

/-- Two functions that call each other, an import that is called, and a member with the
name of a function. -/
def mutualCalls : Text :=
  ("from t import make\ndef f(x): return make(g (x))\n" ++
    "def g(x): return x.f(x) or f(x)\nf(1)\n").toList

theorem inner_calls_of_mutualCalls :
    ∃ (facts : FileFacts) (sites : List (Nat × Text)),
      (Extractor.mk oneScript "/p".toList true).extract "/p/run.py".toList mutualCalls =
        .ok facts ∧
      facts.calls = [⟨"f".toList, "g".toList, 2⟩, ⟨"g".toList, "f".toList, 3⟩,
        ⟨"g".toList, "f".toList, 4⟩] ∧
      sites.Pairwise (·.1 < ·.1) ∧ (∀ s ∈ sites, IsCallSite mutualCalls s.1 s.2) ∧
      List.Forall₂ (fun s call => call.callee = s.2 ∧ call.line = lineAt mutualCalls s.1 ∧
        IsCaller (IsDefinition .python mutualCalls) s.1 call.caller) sites
          facts.calls := by
  obtain ⟨facts, sites, hfacts, hsorted, hsites, hcalls, -⟩ :=
    @inner_calls_of_extract (Extractor.mk oneScript "/p".toList true)
      "/p/run.py".toList .python rfl
      (by decide +kernel) (by decide) mutualCalls
  have hfound :
      ((Extractor.mk oneScript "/p".toList true).extract
        "/p/run.py".toList mutualCalls).toOption.map
        (·.calls) = some [⟨"f".toList, "g".toList, 2⟩, ⟨"g".toList, "f".toList, 3⟩,
          ⟨"g".toList, "f".toList, 4⟩] := by
    decide +kernel
  rw [hfacts] at hfound
  exact ⟨facts, sites, hfacts, Option.some.inj hfound, hsorted, fun s hs =>
    ((hsites s).1 hs).1, hcalls⟩

end ImpactGraph
