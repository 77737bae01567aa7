import Mathlib.Data.List.Basic
import ImpactGraph.Proofs.Answers
import ImpactGraph.Proofs.ImportGroups

/-!
# Groups of imports

The pass over groups takes what stands between the parentheses and reads it line by line.
A group ends for it at the first closing parenthesis, though, and that one may stand in a
comment or in a path. The import before it is still read when the parenthesis is in its
comment, and is not when it is in its path; none of those below is read.
-/

namespace ImpactGraph.Rules.Go

open Text Pattern

/-! ## Up to the first parenthesis -/

/-- An import with its comment cut off before the first closing parenthesis. -/
def Spec.cut (s : Spec) : Spec :=
  { s with comment := s.comment.map (·.takeWhile (· ≠ ')')) }

/-- The imports that the pass over a group gets to see. -/
def seen : List Spec → List Spec
  | [] => []
  | s :: specs =>
    if ')' ∈ s.path then [] else if ')' ∈ s.remark then [s] else s :: seen specs

/-- The lines of a group up to the first closing parenthesis. -/
def opened (closing : Text) : List Spec → List Line
  | [] => [.other closing]
  | s :: specs =>
    if ')' ∈ s.path then [.other (s.lead ++ '"' :: s.path.takeWhile (· ≠ ')'))]
    else if ')' ∈ s.remark then [.spec s.cut] else .spec s :: opened closing specs

section Seen

variable {closing : Text} {specs : List Spec} {s : Spec} {after : List Text}
  {ended : Bool}

theorem Spec.IsProper.cut (h : s.IsProper) : s.cut.IsProper where
  indent := h.indent
  renamed := h.renamed
  gap := h.gap
  path := h.path
  pad := h.pad
  comment := by
    intro t ht
    obtain ⟨u, hu, rfl⟩ := Option.map_eq_some_iff.1 ht
    exact fun hmem => h.comment u hu ((List.takeWhile_sublist _).subset hmem)

theorem Spec.remark_cut (s : Spec) : s.cut.remark = s.remark.takeWhile (· ≠ ')') := by
  simp only [Spec.remark, Spec.cut]
  cases s.comment with
  | none => rfl
  | some t => rw [Option.map_some, Option.map_some, Option.map_some, Option.getD_some,
      Option.getD_some, List.takeWhile_append_of_pos (by decide)]

theorem opened_ne_nil (closing : Text) (specs : List Spec) :
    opened closing specs ≠ [] := by
  cases specs with
  | nil => exact List.cons_ne_nil _ _
  | cons s specs =>
      rw [opened]
      split
      · exact List.cons_ne_nil _ _
      · split <;> exact List.cons_ne_nil _ _

theorem ne_of_isLead {x : Char} (h : isLead x = true) : decide (x ≠ ')') = true := by
  refine decide_eq_true ?_
  rintro rfl
  exact absurd h (by decide)

section One

variable {rest : Text} (h : s.IsProper)
include h

theorem Spec.IsProper.lead_ne : ∀ c ∈ s.lead, decide (c ≠ ')') = true :=
  fun _ hc => ne_of_isLead (h.forall_lead _ hc)

theorem Spec.IsProper.pad_ne : ∀ c ∈ s.pad, decide (c ≠ ')') = true :=
  fun c hc => ne_of_isLead (isLead_of_isInlineBlank (h.pad c hc))

/-- A line with the parenthesis in its path is cut off there. -/
theorem takeWhile_of_path (hpath : ')' ∈ s.path) : (s.text ++ rest).takeWhile (· ≠ ')') =
    s.lead ++ '"' :: s.path.takeWhile (· ≠ ')') := by
  obtain ⟨a, b, hab, ha⟩ := List.eq_append_cons_of_mem hpath
  have hbefore : s.path.takeWhile (· ≠ ')') = a := by
    rw [hab, takeWhile_append_cons (ne_of_notMem ha) (by simp)]
  have hsplit : s.text ++ rest = (s.lead ++ '"' :: a) ++ ')' ::
      (b ++ '"' :: (s.pad ++ s.remark) ++ rest) := by
    rw [Spec.text, hab]
    simp
  have hplain : ∀ c ∈ s.lead ++ '"' :: a, decide (c ≠ ')') = true :=
    List.forall_mem_append.2 ⟨h.lead_ne,
      List.forall_mem_cons.2 ⟨by decide, ne_of_notMem ha⟩⟩
  rw [hsplit, takeWhile_append_cons hplain (by simp), hbefore]

/-- A line with the parenthesis in its comment is left with the comment cut off there. -/
theorem takeWhile_of_remark (hpath : ')' ∉ s.path) (hremark : ')' ∈ s.remark) :
    (s.text ++ rest).takeWhile (· ≠ ')') = s.cut.text := by
  obtain ⟨a, b, hab, ha⟩ := List.eq_append_cons_of_mem hremark
  have hbefore : s.cut.remark = a := by
    rw [Spec.remark_cut, hab, takeWhile_append_cons (ne_of_notMem ha) (by simp)]
  have hcut : s.cut.text = s.lead ++ '"' :: (s.path ++ '"' :: (s.pad ++ a)) := by
    rw [Spec.text, hbefore]
    rfl
  have hsplit : s.text ++ rest = s.cut.text ++ ')' :: (b ++ rest) := by
    rw [hcut, Spec.text, hab]
    simp
  have hplain : ∀ c ∈ s.cut.text, decide (c ≠ ')') = true := by
    rw [hcut]
    simp only [List.forall_mem_append, List.forall_mem_cons]
    exact ⟨h.lead_ne, by decide, ne_of_notMem hpath, by decide, h.pad_ne, ne_of_notMem ha⟩
  rw [hsplit, takeWhile_append_cons hplain (by simp)]

theorem takeWhile_of_notMem (hpath : ')' ∉ s.path) (hremark : ')' ∉ s.remark) :
    (s.text ++ rest).takeWhile (· ≠ ')') = s.text ++ rest.takeWhile (· ≠ ')') := by
  refine List.takeWhile_append_of_pos ?_
  rw [Spec.text]
  simp only [List.forall_mem_append, List.forall_mem_cons]
  exact ⟨h.lead_ne, by decide, ne_of_notMem hpath, by
    decide, h.pad_ne, ne_of_notMem hremark⟩

end One

theorem takeWhile_footer (hclosing : ∀ c ∈ closing, isInlineBlank c = true) :
    (stack ended (footer closing :: after)).takeWhile (· ≠ ')') = closing := by
  have hplain : ∀ c ∈ closing, decide (c ≠ ')') = true :=
    fun c hc => ne_of_isLead (isLead_of_isInlineBlank (hclosing c hc))
  have hfooter : ∃ more, stack ended (footer closing :: after) =
      closing ++ ')' :: more := by
    rcases stack_cons ended (footer closing) after with ⟨-, hstack⟩ | hstack
    · exact ⟨[], hstack⟩
    · refine ⟨'\n' :: stack ended after, hstack.trans ?_⟩
      simp [footer]
  obtain ⟨more, hmore⟩ := hfooter
  rw [hmore, takeWhile_append_cons hplain (by simp)]

/-- What stands in a group before the first closing parenthesis. -/
theorem takeWhile_group (hclosing : ∀ c ∈ closing, isInlineBlank c = true)
    (hspecs : ∀ s ∈ specs, s.IsProper) :
    (stack ended (specs.map Spec.text ++ footer closing :: after)).takeWhile (· ≠ ')') =
      stack false ((opened closing specs).map Line.text) := by
  induction specs with
  | nil =>
      rw [List.map_nil, List.nil_append, takeWhile_footer hclosing]
      exact (List.append_nil closing).symm
  | cons s specs ih =>
      obtain ⟨hs, hspecs⟩ := List.forall_mem_cons.1 hspecs
      rw [List.map_cons, List.cons_append, stack_cons_of_ne_nil _ _ (by simp), opened]
      split
      · next hpath =>
          rw [takeWhile_of_path hs hpath]
          exact (List.append_nil _).symm
      · next hpath =>
          split
          · next hremark =>
              rw [takeWhile_of_remark hs hpath hremark]
              exact (List.append_nil _).symm
          · next hremark =>
              have hopened : (opened closing specs).map Line.text ≠ [] := by
                simpa using opened_ne_nil closing specs
              rw [takeWhile_of_notMem hs hpath hremark,
                List.takeWhile_cons_of_pos (by decide), ih hspecs,
                List.map_cons, stack_cons_of_ne_nil _ _ hopened]
              rfl

end Seen

section Group

variable {before after : List Text} {gap closing line tail : Text} {specs : List Spec}
  {ended : Bool} {lines : List Text} {B : Text → Prop}

theorem IsOther.quiet (h : IsOther line) : IsQuiet BeginsGroup line :=
  ⟨h.1, fun _ htail hbegins => h.2 (hbegins.2.of_append htail)⟩

theorem IsOther.quiet_single (h : IsOther line) : IsQuiet BeginsSingle line := by
  refine ⟨h.1, fun tail htail ⟨_, g, b, rest, heq, hg, hb⟩ =>
    h.2 (Begins.of_append ?_ htail)⟩
  rw [heq]
  exact begins_append hg (b :: rest)

theorem isQuiet_of_marked {mark x : Char} (hmark : isLead mark = false)
    (hx : isLead x = false) (hne : mark ≠ x) (hB : ∀ {t}, B t → Marked mark t)
    (hbreak : '\n' ∉ line) (hline : Marked x line) : IsQuiet B line :=
  ⟨hbreak, fun tail _ hbegins => hne ((hB hbegins).eq hmark hx (hline.append tail))⟩

theorem Spec.IsProper.quiet {s : Spec} (h : s.IsProper) : IsQuiet BeginsGroup s.text :=
  isQuiet_of_marked (by decide) (by decide) (by decide) And.left h.notMem_text h.marked

theorem notMem_header (hgap : ∀ c ∈ gap, isInlineBlank c = true) : '\n' ∉ header gap := by
  rw [header_eq, List.mem_append, List.mem_append, not_or, not_or]
  exact ⟨⟨by decide, notMem_of_inline hgap⟩, by decide⟩

theorem quiet_footer (hclosing : ∀ c ∈ closing, isInlineBlank c = true) :
    IsQuiet BeginsGroup (footer closing) ∧ IsQuiet BeginsSingle (footer closing) :=
  ⟨isQuiet_of_marked (by decide) (by decide) (by decide) And.left (notMem_footer hclosing)
      (marked_footer hclosing),
    isQuiet_of_marked (by decide) (by decide) (by decide) And.left
      (notMem_footer hclosing)
      (marked_footer hclosing)⟩

theorem quiet_header (hgap : ∀ c ∈ gap, isInlineBlank c = true) :
    IsQuiet BeginsSingle (header gap) :=
  isQuiet_of_marked (by decide) (by decide) (by decide) And.left (notMem_header hgap)
    (marked_header hgap)

theorem mem_below :
    ')' ∈ stack ended (specs.map Spec.text ++ footer closing :: after) := by
  rw [stack_append _ _ (List.cons_ne_nil _ _)]
  refine List.mem_append_right _ ?_
  rcases stack_cons ended (footer closing) after with ⟨-, hstack⟩ | hstack
  · rw [hstack]
    simp [footer]
  · rw [hstack]
    simp [footer]

theorem quiet_below (hafter : ∀ line ∈ after, IsOther line)
    (hclosing : ∀ c ∈ closing, isInlineBlank c = true)
    (hspecs : ∀ s ∈ specs, s.IsProper) :
    ∀ line ∈ specs.map Spec.text ++ footer closing :: after,
      IsQuiet BeginsGroup line := by
  refine List.forall_mem_append.2 ⟨?_,
    List.forall_mem_cons.2 ⟨(quiet_footer hclosing).1, ?_⟩⟩
  · intro line hline
    obtain ⟨s, hs, rfl⟩ := List.mem_map.1 hline
    exact (hspecs s hs).quiet
  · exact fun line hline => (hafter line hline).quiet

/-- Nothing is found above the group, and nothing behind its first closing parenthesis. -/
theorem exists_findAll_importGroup (hbefore : ∀ line ∈ before, IsOther line)
    (hafter : ∀ line ∈ after, IsOther line) (hgap : ∀ c ∈ gap, isInlineBlank c = true)
    (hclosing : ∀ c ∈ closing, isInlineBlank c = true)
    (hspecs : ∀ s ∈ specs, s.IsProper) :
    ∃ m rest,
      importGroup.findAll (stack ended (groupLines before gap specs closing after)) =
        [m] ∧
      m.part .clause = stack false ((.other [] :: opened closing specs).map Line.text) ∧
      m.startOf .clause = (stack true before ++ header gap).length ∧
      stack ended (groupLines before gap specs closing after) =
        stack true before ++ header gap ++ m.part .clause ++ rest := by
  have hquiet := quiet_below hafter hclosing hspecs
  obtain ⟨clause, rest, hbelow, hclause⟩ :=
    List.eq_append_cons_of_mem (@mem_below after closing specs ended)
  have hopened : clause = stack false ((opened closing specs).map Line.text) := by
    rw [← takeWhile_group hclosing hspecs, hbelow,
      takeWhile_append_cons (ne_of_notMem hclause) (by simp)]
  have hlines : stack false ((Line.other [] :: opened closing specs).map Line.text) =
      '\n' :: clause := by
    rw [List.map_cons,
      stack_cons_of_ne_nil _ _ (by simpa using opened_ne_nil closing specs), hopened]
    rfl
  have hsplit :
      stack ended (header gap :: (specs.map Spec.text ++ footer closing :: after)) =
        (header gap ++ ('\n' :: clause ++ [')'])) ++ rest := by
    rw [stack_cons_of_ne_nil _ _ (by simp), hbelow]
    simp
  have hlast : (header gap ++ ('\n' :: clause ++ [')'])).getLast? = some ')' := by
    rw [← List.append_assoc, List.getLast?_concat]
  rw [hlines]
  generalize hscript : stack ended (groupLines before gap specs closing after) = script
  let c :=
    (Cursor.ofText script).past (stack true before)
      ((header gap ++ ('\n' :: clause ++ [')'])) ++ rest)
  have hrest : c.rest = header gap ++ ('\n' :: clause ++ ')' :: rest) := by simp [c]
  have hstart : ∀ x ∈ c.before, x = '\n' := by
    show ∀ x ∈ (stack true before).getLast?.or none, x = '\n'
    rw [Option.or_none]
    exact getLast?_stack_true before
  obtain ⟨d, hd, hspan, hparts⟩ :=
    exists_first_importGroup hgap (by simpa using hclause) hstart hrest
  obtain ⟨hpart, hplace⟩ := hparts c
  refine ⟨c.matchTo d, ')' :: rest, ?_, hpart, ?_, ?_⟩
  · exact findAll_of_first startsLine_importGroup beginsGroup_of_mem_ends
      (fun hbegins => not_marked_of_endsBlock (by simp [EndsBlock]) (by decide) hbegins.1)
      (fun line hline => (hbefore line hline).quiet) (notMem_header hgap) hquiet
        hscript.symm hsplit
      ⟨')', hlast, by decide⟩ hd hspan
  · rw [hplace, List.length_append]
    simp [c, Cursor.ofText]
  · rw [hpart, ← hscript, groupLines, stack_append _ _ (List.cons_ne_nil _ _), hsplit]
    simp

/-- Imports with the lines on which they stand. -/
def written (line : Nat) (specs : List Spec) : List (Option Text × Text × Nat) :=
  (specs.zipIdx line).map fun x => (x.1.renamed, x.1.path, x.2)

/-- The imports that the pass for those that stand alone finds among the lines of a
group. -/
def doubled (line : Nat) (specs : List Spec) : List (Option Text × Text × Nat) :=
  ((specs.zipIdx line).filter fun x => x.1.EchoesWord).map fun x => (none, x.1.path, x.2)

theorem flatMap_single_other (texts : List Text) (line : Nat) :
    ((texts.map Line.other).zipIdx line).flatMap (fun x => x.1.single x.2) = [] := by
  rw [List.flatMap_eq_nil_iff]
  rintro ⟨a, n⟩ hmem
  obtain ⟨t, -, rfl⟩ := List.mem_map.1 (List.fst_mem_of_mem_zipIdx hmem)
  rfl

theorem flatMap_single_spec (specs : List Spec) (line : Nat) :
    ((specs.map Line.spec).zipIdx line).flatMap (fun x => x.1.single x.2) =
      doubled line specs := by
  induction specs generalizing line with
  | nil => rfl
  | cons s specs ih =>
      rw [List.map_cons, List.zipIdx_cons, List.flatMap_cons, ih, doubled, doubled,
        List.zipIdx_cons, List.filter_cons, Line.single]
      split
      · next h => rw [if_pos (by simpa using h)]; rfl
      · next h => rw [if_neg (by simpa using h)]; rfl

theorem map_singleImport (hbefore : ∀ line ∈ before, IsOther line)
    (hafter : ∀ line ∈ after, IsOther line) (hgap : ∀ c ∈ gap, isInlineBlank c = true)
    (hclosing : ∀ c ∈ closing, isInlineBlank c = true) (hspecs : ∀ s ∈ specs, s.IsProper)
    {content : Text}
    (hcontent : content = stack ended (groupLines before gap specs closing after)) :
    (singleImport.findAll content).map (fun m =>
      (m.part? .renamed, m.part .source, lineAt content m.start)) =
      doubled (before.length + 2) specs := by
  let lines := before.map Line.other ++ .other (header gap) ::
    (specs.map Line.spec ++ .other (footer closing) :: after.map Line.other)
  have htexts : lines.map Line.text = groupLines before gap specs closing after := by
    simp [lines, groupLines, Function.comp_def, Line.text]
  have hothers {texts : List Text} (h : ∀ line ∈ texts, IsOther line) :
      ∀ line ∈ texts.map Line.other, line.Suits BeginsSingle := by
    intro line hline
    obtain ⟨t, ht, rfl⟩ := List.mem_map.1 hline
    exact (h t ht).quiet_single
  have hsuits : ∀ line ∈ lines, line.Suits BeginsSingle := by
    simp only [lines, List.forall_mem_append, List.forall_mem_cons]
    refine ⟨hothers hbefore, quiet_header hgap, fun line hline =>
      ?_, (quiet_footer hclosing).2, hothers hafter⟩
    obtain ⟨s, hs, rfl⟩ := List.mem_map.1 hline
    exact hspecs s hs
  rw [← htexts] at hcontent
  rw [List.map_eq_flatMap, flatMap_singleImport hsuits hcontent,
    numbered_eq_zipIdx fun line hline => (hsuits line hline).notMem]
  simp only [lines, List.zipIdx_append, List.zipIdx_cons, List.flatMap_append,
    List.flatMap_cons, flatMap_single_other, flatMap_single_spec, Line.single_other,
    List.nil_append, List.append_nil, List.length_map]
  rw [Nat.add_comm 1, Nat.add_assoc]

/-- How far into a line its path starts. -/
def Line.inside : Line → Nat
  | spec s => s.lead.length + 1
  | other _ => 0

/-- What is recorded for a line of a group. -/
def Line.named : Line → Nat → List (Option Text × Text × Nat)
  | spec s, line => [(s.renamed, s.path, line)]
  | other _, _ => []

theorem flatMap_named_opened (closing : Text) (specs : List Spec) (line : Nat) :
    ((opened closing specs).zipIdx line).flatMap (fun x => x.1.named x.2) =
      written line (seen specs) := by
  induction specs generalizing line with
  | nil => rfl
  | cons s specs ih =>
      rw [opened, seen]
      split
      · rfl
      · split
        · rfl
        · rw [List.zipIdx_cons, List.flatMap_cons, ih, written, written, List.zipIdx_cons,
            List.map_cons]
          rfl

theorem not_marked_of_lead {mark : Char} {t : Text} (hmark : isLead mark = false)
    (hbreak : mark ≠ '\n') (ht : ∀ c ∈ t, isLead c = true) (htail : EndsBlock tail) :
    ¬ Marked mark (t ++ tail) := by
  rintro ⟨lead, rest, heq, hlead⟩
  rcases List.append_eq_append_iff.1 heq with ⟨a, rfl, htail'⟩ | ⟨a, rfl, ha⟩
  · exact not_marked_of_endsBlock htail hbreak ⟨a, rest, htail',
      (List.forall_mem_append.1 hlead).2⟩
  · cases a with
    | nil =>
        obtain rfl := htail mark (by rw [← List.nil_append tail, ← ha]; rfl)
        exact hbreak rfl
    | cons x a =>
        obtain rfl := (List.cons.inj ha).1
        exact absurd (ht mark (by simp)) (by simp [hmark])

theorem quiet_blank {t : Text} (ht : ∀ c ∈ t, isInlineBlank c = true) :
    IsQuiet BeginsEntry t :=
  ⟨notMem_of_inline ht, fun _ htail hbegins => not_marked_of_lead (by decide) (by decide)
    (fun c hc => isLead_of_isInlineBlank (ht c hc)) htail hbegins.marked⟩

/-- A path that is cut off is not read, for want of its second quote. -/
theorem quiet_cut {lead path : Text} (hlead : ∀ c ∈ lead, isLead c = true)
    (hpath : ∀ c ∈ path, c ≠ '"' ∧ c ≠ '\n') :
    IsQuiet BeginsEntry (lead ++ '"' :: path) := by
  have hno {a : Text} (ha : ∀ c ∈ a, isLead c = true) : ∀ c ∈ a, (!isLead c) = false :=
    fun c hc => by rw [ha c hc]; rfl
  constructor
  · simp only [List.mem_append, List.mem_cons, not_or]
    exact ⟨fun hmem => absurd (hlead _ hmem) (by decide), by
      decide, fun hmem => (hpath _ hmem).2 rfl⟩
  · rintro tail htail ⟨other, inner, rest, heq, hother, hinner⟩
    rw [List.append_assoc] at heq
    obtain ⟨-, -, heq⟩ := eq_of_first (hno hlead) (hno hother) (by decide) (by decide) heq
    rcases List.append_eq_append_iff.1 heq with ⟨a, rfl, ha⟩ | ⟨a, rfl, ha⟩
    · cases a with
      | nil => exact absurd (htail '"' (by rw [ha]; rfl)) (by decide)
      | cons x a =>
          obtain rfl := htail x (by rw [ha]; rfl)
          exact (hinner '\n' (by simp)).2 rfl
    · cases a with
      | nil =>
          exact absurd (htail '"' (by rw [← List.nil_append tail, ← ha]; rfl)) (by decide)
      | cons x a =>
          obtain rfl := (List.cons.inj ha).1
          exact (hpath '"' (by simp)).1 rfl

theorem suits_opened (hclosing : ∀ c ∈ closing, isInlineBlank c = true)
    (hspecs : ∀ s ∈ specs, s.IsProper) :
    ∀ line ∈ opened closing specs, line.Suits BeginsEntry := by
  induction specs with
  | nil => exact List.forall_mem_singleton.2 (quiet_blank hclosing)
  | cons s specs ih =>
      obtain ⟨hs, hspecs⟩ := List.forall_mem_cons.1 hspecs
      rw [opened]
      split
      · refine List.forall_mem_singleton.2 (quiet_cut hs.forall_lead fun c hc =>
          hs.path.2 c ?_)
        exact (List.takeWhile_sublist _).subset hc
      · split
        · exact List.forall_mem_singleton.2 hs.cut
        · exact List.forall_mem_cons.2 ⟨hs, ih hspecs⟩

theorem Line.exists_inside {line : Line} (h : line.Suits BeginsEntry) :
    ∃ left right, line.text = left ++ right ∧ left.length = line.inside ∧
      '\n' ∉ left := by
  cases line with
  | other t => exact ⟨[], t, rfl, rfl, List.not_mem_nil⟩
  | spec s =>
      refine ⟨s.lead ++ ['"'], s.path ++ '"' :: (s.pad ++ s.remark), by
        simp [Line.text, Spec.text], by simp [inside], fun hmem => h.notMem ?_⟩
      simp only [Line.text, Spec.text, List.mem_append, List.mem_cons,
        List.not_mem_nil, or_false] at hmem ⊢
      exact hmem.imp_right .inl

theorem flatMap_importGroup (hbefore : ∀ line ∈ before, IsOther line)
    (hafter : ∀ line ∈ after, IsOther line) (hgap : ∀ c ∈ gap, isInlineBlank c = true)
    (hclosing : ∀ c ∈ closing, isInlineBlank c = true) (hspecs : ∀ s ∈ specs, s.IsProper)
    {content : Text}
    (hcontent : content = stack ended (groupLines before gap specs closing after)) :
    ((importGroup.findAll content).flatMap fun block =>
      (groupEntry.findAll (block.part .clause)).map fun m =>
        (m.part? .renamed, m.part .source,
          lineAt content (block.startOf .clause + m.startOf .source))) =
      written (before.length + 2) (seen specs) := by
  obtain ⟨m, rest, hfound, hpart, hstart, hsplit⟩ :=
    @exists_findAll_importGroup before after gap closing specs ended hbefore hafter hgap
      hclosing hspecs
  rw [← hcontent] at hfound hsplit
  have hsuits : ∀ line ∈ Line.other [] :: opened closing specs, line.Suits BeginsEntry :=
    List.forall_mem_cons.2 ⟨quiet_blank (List.forall_mem_nil _),
      suits_opened hclosing hspecs⟩
  generalize hlines : Line.other [] :: opened closing specs = lines at hpart hsuits
  generalize hdone : stack true before ++ header gap = done at hstart hsplit
  have hwithin := @map_lineAt_within _ _ false _ _
    (fun line hline => Line.exists_inside (hsuits line hline)) done rest
  rw [← hpart, ← hsplit, ← Nat.add_zero done.length, placed_add, List.map_map] at hwithin
  have hentries := @flatMap_groupEntry false lines hsuits
  rw [← hpart] at hentries
  have hplace (x : Line × Nat) :
      (x.1.entry x.2).map (fun y => (y.1, y.2.1, lineAt content (done.length + y.2.2))) =
        x.1.named (lineAt content (done.length + x.2 + x.1.inside)) := by
    obtain ⟨line, offset⟩ := x
    cases line with
    | other t => rfl
    | spec s => simp [Line.entry, Line.named, Line.inside, Nat.add_assoc]
  have hbreaks : done.count '\n' = before.length := by
    rw [← hdone, List.count_append, count_stack_true fun line hline =>
      (hbefore line hline).1, List.count_eq_zero.2 (notMem_header hgap), Nat.add_zero]
  calc
    _ = ((groupEntry.findAll (m.part .clause)).flatMap
          fun m => [(m.part? .renamed, m.part .source, m.startOf .source)]).map
            (fun y => (y.1, y.2.1, lineAt content (done.length + y.2.2))) := by
      rw [hfound, List.flatMap_singleton, hstart, List.map_flatMap, List.map_eq_flatMap]
      rfl
    _ = (placed Line.text 0 lines).flatMap
          fun x => x.1.named (lineAt content (done.length + x.2 + x.1.inside)) := by
      rw [hentries, List.map_flatMap]
      simp only [hplace]
    _ = (numbered Line.text (done.count '\n' + 1) lines).flatMap fun y =>
      y.1.named y.2 := by
      rw [← hwithin, List.flatMap_map]
      rfl
    _ = written (before.length + 2) (seen specs) := by
      rw [numbered_eq_zipIdx fun line hline => Line.Suits.notMem (hsuits line hline),
        hbreaks, ← hlines, List.zipIdx_cons, List.flatMap_cons, flatMap_named_opened]
      rfl

end Group

/-! ## Facts -/

section Facts

variable {w : Workspace} {root file content path : Text} {line : Nat} {specs : List Spec}

theorem filter_split_slashes {last slashes : Text} (hlast : '/' ∉ last)
    (hslashes : ∀ c ∈ slashes, c = '/') :
    (split '/' (last ++ slashes)).filter (· ≠ []) = [last].filter (· ≠ []) := by
  induction slashes generalizing last with
  | nil => rw [List.append_nil, split_of_notMem hlast]
  | cons c slashes ih =>
      obtain ⟨rfl, hmore⟩ := List.forall_mem_cons.1 hslashes
      have hrest := ih List.not_mem_nil hmore
      rw [List.nil_append] at hrest
      rw [split_append_sep, split_of_notMem hlast, List.filter_append, hrest]
      exact List.append_nil _

/-- The last component that a path has, whatever slashes are in it. -/
def lastComponent (path : Text) : Text :=
  (((split '/' path).filter (· ≠ [])).getLast?).getD []

theorem symbolOf_eq (path : Text) : symbolOf path = lastComponent path := by
  obtain ⟨slashes, hpath, hslashes⟩ := exists_dropWhileEnd_append (· = '/') path
  replace hslashes : ∀ c ∈ slashes, c = '/' :=
    fun c hc => of_decide_eq_true (hslashes c hc)
  have hlast : ∀ c ∈ (dropWhileEnd (· = '/') path).getLast?, c ≠ '/' :=
    fun c hc => of_decide_eq_false (last_dropWhileEnd (· = '/') path c hc)
  rw [symbolOf, lastComponent]
  generalize dropWhileEnd (· = '/') path = t at hpath hlast
  subst hpath
  by_cases hslash : '/' ∈ t
  · obtain ⟨b, a, hab, hb⟩ := List.eq_append_cons_of_mem (List.mem_reverse.2 hslash)
    obtain rfl : t = a.reverse ++ ['/'] ++ b.reverse := by
      rw [← List.reverse_reverse t, hab]
      simp
    have hb : '/' ∉ b.reverse := fun hmem => hb (List.mem_reverse.1 hmem)
    have hne : b.reverse ≠ [] := by
      intro hnil
      rw [hnil, List.append_nil] at hlast
      exact hlast '/' (by simp) rfl
    have hsplit : a.reverse ++ ['/'] ++ b.reverse ++ slashes = a.reverse ++ '/' ::
        (b.reverse ++ slashes) := by simp
    rw [afterLast, cutLast_append hb, hsplit, split_append_sep, List.filter_append,
      filter_split_slashes hb hslashes, List.filter_cons_of_pos (by simpa using hne)]
    simp
  · have hcut : cutLast ['/'] t = none := @cutLast_of_notMem '/' [] t hslash
    rw [afterLast, hcut, filter_split_slashes hslash hslashes]
    by_cases ht : t = []
    · subst ht
      rfl
    · rw [List.filter_cons_of_pos (by simpa using ht)]
      rfl

/-- The import that an alias, a path and a line stand for. -/
def importOf (w : Workspace) (root file : Text) (x : Option Text × Text × Nat) :
    Except Unreadable Import :=
  (Resolve.go w root file x.2.1).map fun target =>
    ⟨lastComponent x.2.1, target, .whole, x.2.1, x.2.2,
      x.1.filter (· ≠ lastComponent x.2.1)⟩

/-- What a file records, if the module file does not stop it. -/
def fileFacts (w : Workspace) (root file content : Text) : Except Unreadable FileFacts :=
  (findings w root file content).map (FileFacts.ofFindings file .go)

theorem importFindings_eq (w : Workspace) (root file : Text)
    (x : Option Text × Text × Nat) :
    importFindings w root file x.1 x.2.1 x.2.2 =
      (importOf w root file x).map fun i => [.imports i, .dependsOn i.target] := by
  rw [importFindings, importOf, symbolOf_eq]
  cases Resolve.go w root file x.2.1 <;> rfl

theorem fileFacts_eq :
    (fileFacts w root file content).map (fun facts => (facts.imports, facts.edges)) =
    ((importSpecs content).mapM (importOf w root file)).map
      fun imports => (imports, distinct (imports.map (·.target))) := by
  have hfindings :
      (importSpecs content).mapM (fun x => importFindings w root file x.1 x.2.1 x.2.2) =
        ((importSpecs content).mapM (importOf w root file)).map
          (List.map fun i => [.imports i, .dependsOn i.target]) := by
    rw [← mapM_map]
    simp only [importFindings_eq]
  rw [fileFacts, findings, hfindings]
  cases (importSpecs content).mapM (importOf w root file) with
  | error e => rfl
  | ok imports =>
      simp only [Except.map, FileFacts.ofFindings_eq, List.filterMap_append,
        ← List.flatMap_def, Finding.imports_of_pairs, Finding.targets_of_pairs,
        Finding.imports_of_exports, Finding.targets_of_exports,
        List.append_nil]

theorem seen_isPrefix (specs : List Spec) : seen specs <+: specs := by
  induction specs with
  | nil => exact List.prefix_rfl
  | cons s specs ih =>
      rw [seen]
      split
      · exact List.nil_prefix
      · split
        · exact ⟨specs, rfl⟩
        · exact (List.prefix_cons_inj s).2 ih

theorem seen_eq_iff (specs : List Spec) :
    seen specs = specs ↔ (∀ s ∈ specs, ')' ∉ s.path) ∧ ∀ s ∈ specs.dropLast,
      ')' ∉ s.remark := by
  induction specs with
  | nil => simp [seen]
  | cons s specs ih =>
      rw [seen, List.forall_mem_cons]
      by_cases hpath : ')' ∈ s.path
      · simp [hpath]
      · rw [if_neg hpath]
        by_cases hremark : ')' ∈ s.remark
        · rw [if_pos hremark, List.cons.injEq]
          cases specs with
          | nil => simp [hpath]
          | cons t specs => simp [hremark]
        · rw [if_neg hremark, List.cons.injEq, ih]
          cases specs with
          | nil => simp [hpath]
          | cons t specs => simp [hpath, hremark]

theorem doubled_eq_nil_iff (line : Nat) (specs : List Spec) :
    doubled line specs = [] ↔ ∀ s ∈ specs, ¬ s.EchoesWord := by
  rw [doubled, List.map_eq_nil_iff, List.filter_eq_nil_iff]
  constructor
  · intro h s hs
    obtain ⟨i, hi, rfl⟩ := List.getElem_of_mem hs
    simpa using h (specs[i], line + i) (List.mk_add_mem_zipIdx_iff_getElem?.2 (by simp))
  · rintro h ⟨s, n⟩ hmem
    simpa using h s (List.fst_mem_of_mem_zipIdx hmem)

theorem doubled_disjoint {line : Nat} {specs : List Spec} {x : Option Text × Text × Nat}
    (h : x ∈ doubled line specs) : x ∉ written line specs := by
  intro h'
  obtain ⟨⟨s, n⟩, hs, rfl⟩ := List.mem_map.1 h
  obtain ⟨⟨t, m⟩, ht, heq⟩ := List.mem_map.1 h'
  obtain ⟨hs, hecho⟩ := List.mem_filter.1 hs
  obtain ⟨hnone, -, rfl⟩ : t.renamed = none ∧ t.path = s.path ∧ m = n := by
    simpa using heq
  have hsame := (List.mk_mem_zipIdx_iff_le_and_getElem?_sub.1 hs).2.symm.trans
    (List.mk_mem_zipIdx_iff_le_and_getElem?_sub.1 ht).2
  obtain rfl := Option.some.inj hsame
  have hsome : s.renamed = some "import".toList := of_decide_eq_true hecho
  exact absurd (hnone.symm.trans hsome) (by simp)

/-- Every import of a group is recorded as it is written just when there is nothing to end
the group early and no import begins with the word. -/
theorem recorded_eq_written_iff (line : Nat) (specs : List Spec) :
    doubled line specs ++ written line (seen specs) = written line specs ↔
      (∀ s ∈ specs, ¬ s.EchoesWord) ∧ (∀ s ∈ specs, ')' ∉ s.path) ∧ ∀ s ∈ specs.dropLast,
        ')' ∉ s.remark := by
  rw [← seen_eq_iff, ← doubled_eq_nil_iff line]
  constructor
  · intro h
    have hnil : doubled line specs = [] := by
      refine List.eq_nil_iff_forall_not_mem.2 fun x hx => doubled_disjoint hx ?_
      rw [← h]
      exact List.mem_append_left _ hx
    rw [hnil, List.nil_append] at h
    have hlength : (seen specs).length = specs.length := by
      simpa [written] using congrArg List.length h
    exact ⟨hnil, (seen_isPrefix specs).eq_of_length hlength⟩
  · rintro ⟨hnil, hseen⟩
    rw [hnil, hseen, List.nil_append]

/-- In a file with one group of imports, those that the pass over the group gets to see
are recorded in their order, after those that are renamed to the word itself. This is what
is written just when no import is renamed so, and no closing parenthesis stands in a path
or in a comment above the last import. -/
theorem group_read_to_parenthesis (w : Workspace) (root file : Text)
    {before after : List Text} {gap closing : Text}
    (hbefore : ∀ line ∈ before, IsOther line) (hafter : ∀ line ∈ after, IsOther line)
    (hgap : ∀ c ∈ gap, isInlineBlank c = true)
    (hclosing : ∀ c ∈ closing, isInlineBlank c = true) (hspecs : ∀ s ∈ specs, s.IsProper)
    (ended : Bool) :
    let content := stack ended (groupLines before gap specs closing after)
    let first := before.length + 2
    let recorded := doubled first specs ++ written first (seen specs)
    (fileFacts w root file content).map (fun facts => (facts.imports, facts.edges)) =
        (recorded.mapM (importOf w root file)).map
          (fun imports => (imports, distinct (imports.map (·.target)))) ∧
      (recorded = written first specs ↔ (∀ s ∈ specs, ¬ s.EchoesWord) ∧
        (∀ s ∈ specs, ')' ∉ s.path) ∧
        ∀ s ∈ specs.dropLast, ')' ∉ s.remark) := by
  intro content first recorded
  have hrecorded : importSpecs content = recorded := by
    rw [importSpecs, map_singleImport hbefore hafter hgap hclosing hspecs rfl,
      flatMap_importGroup hbefore hafter hgap hclosing hspecs rfl]
  refine ⟨?_, recorded_eq_written_iff first specs⟩
  rw [fileFacts_eq, hrecorded]

/-- A project without a module file. -/
def mainFile : Workspace where
  cwd := "/p".toList
  tree := .directory [("p".toList, .directory [("main.go".toList, .file [])])]

/-- Three imports, the second of which has a parenthesis in its comment. -/
def threeSpecs : List Spec :=
  [{ path := "fmt".toList },
    { renamed := some "cfg".toList, path := "app/config".toList, pad := [' '],
      comment := some " the (only) one".toList },
    { path := "app/log".toList }]

theorem group_read_to_parenthesis_of_threeSpecs :
    let content :=
      ("package main\n\nimport (\n\t\"fmt\"\n\tcfg \"app/config\" // the (only) one\n" ++
        "\t\"app/log\"\n)\n").toList
    (fileFacts mainFile "/p".toList "/p/main.go".toList content).map
        (fun facts => (facts.imports, facts.edges)) =
      .ok ([⟨"fmt".toList, "/p/vendor/fmt".toList, .whole, "fmt".toList, 4, none⟩,
          ⟨"config".toList, "/p/vendor/app/config".toList, .whole, "app/config".toList, 5,
            some "cfg".toList⟩],
        ["/p/vendor/fmt".toList, "/p/vendor/app/config".toList]) := by
  intro content
  have hbefore : ∀ line ∈ ["package main".toList, []], IsOther line := by decide
  obtain ⟨hfacts, -⟩ :=
    group_read_to_parenthesis mainFile "/p".toList "/p/main.go".toList hbefore
      (List.forall_mem_nil _) (by decide : ∀ c ∈ [' '], isInlineBlank c = true)
      (by decide : ∀ c ∈ ([] : Text), isInlineBlank c = true)
      (by decide : ∀ s ∈ threeSpecs, s.IsProper) true
  have hcontent :
      stack true (groupLines ["package main".toList, []] [' '] threeSpecs [] []) =
        content := by
    decide +kernel
  rw [hcontent] at hfacts
  rw [hfacts]
  decide +kernel

/-- The comment ends the group, and the third import is lost. -/
theorem lost_import_of_threeSpecs :
    let content :=
      ("package main\n\nimport (\n\t\"fmt\"\n\tcfg \"app/config\" // the (only) one\n" ++
        "\t\"app/log\"\n)\n").toList
    let found :=
      (fileFacts mainFile "/p".toList "/p/main.go".toList content).map
        (·.imports.map (·.source))
    stack true (groupLines ["package main".toList, []] [' '] threeSpecs [] []) = content ∧
      found = .ok ["fmt".toList, "app/config".toList] ∧
        found ≠ .ok (threeSpecs.map (·.path)) := by
  intro content found
  have hfound : found = .ok ["fmt".toList, "app/config".toList] := by decide +kernel
  refine ⟨by decide +kernel, hfound, ?_⟩
  rw [hfound]
  decide

end Facts

end ImpactGraph.Rules.Go
