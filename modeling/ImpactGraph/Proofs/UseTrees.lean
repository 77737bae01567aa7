import ImpactGraph.Proofs.Expansions
import ImpactGraph.Proofs.TextWords

/-!
# Use trees and how they are written

Trees are expanded by counting characters: the commas that count stand at depth zero, a
group begins at its first opening brace and ends at its last closing one, and blanks are
made plain again at every level. All three rest on one fact about what is written: its
braces balance (`Written.passes`), so that a reader who walks over a tree is as deep
behind it as before.

The grammar is a relation between trees and texts, because one tree is written in many
ways. Making blanks plain leads from one way to another (`Written.singleSpaced`), so that
a tree whose blanks were made plain is again some text of the grammar, and the tree below
a group is read from such a text in its turn. That is why the expansion is followed on the
tree, for all its texts at once, and not on the text.
-/

namespace ImpactGraph.Rules.UseTree

open Text

/-! ## The grammar -/

/-- The characters that stand between the words of a use tree. -/
def isMark (c : Char) : Bool := isBlank c || c = ',' || c = '{' || c = '}'

/-- A word of a use tree: a segment of a path, `self` and `*` among them, or an alias. -/
structure IsWord (t : Text) : Prop where
  ne_nil : t ≠ []
  unmarked : ∀ c ∈ t, isMark c = false

instance (t : Text) : Decidable (IsWord t) :=
  decidable_of_iff (t ≠ [] ∧ ∀ c ∈ t, isMark c = false) ⟨fun ⟨a, b⟩ => ⟨a, b⟩,
    fun ⟨a, b⟩ => ⟨a, b⟩⟩

/-- A use tree: a path, which may get an alias, or a group of trees below a path, which
may be empty. -/
inductive Tree where
  | leaf (path : List Text) (renamed : Option Text)
  | group (above : List Text) (members : List Tree)

/-- The text of a leaf. -/
def leafText (path : List Text) (renamed : Option Text) : Text :=
  join "::".toList path ++
    match renamed with
    | none => []
    | some name => " as ".toList ++ name

/-- The text of the path that a group stands below, each of whose segments is followed by
colons. -/
def headText (above : List Text) : Text := above.flatMap (· ++ "::".toList)

mutual

/-- A tree written out, with any blanks around braces and commas. Before a group that
stands below no path they are those of the list around it. -/
inductive Written : Tree → Text → Prop
  | leaf {path : List Text} {renamed : Option Text} : path ≠ [] →
      (∀ word ∈ path, IsWord word) →
    (∀ name ∈ renamed, IsWord name) → Written (.leaf path renamed) (leafText path renamed)
  | group {above : List Text} {members : List Tree} {gap inside : Text} :
    (∀ word ∈ above, IsWord word) → (∀ c ∈ gap, isBlank c = true) →
      (above = [] → gap = []) →
    Lists members inside →
      Written (.group above members) (headText above ++ gap ++ ('{' :: inside ++ ['}']))

/-- Trees written out one after another with commas between them; one more comma may
follow the last. -/
inductive Lists : List Tree → Text → Prop
  | none {pad : Text} : (∀ c ∈ pad, isBlank c = true) → Lists [] pad
  | last {tree : Tree} {left text right : Text} : (∀ c ∈ left, isBlank c = true) →
      Written tree text →
    (∀ c ∈ right, isBlank c = true) → Lists [tree] (left ++ text ++ right)
  | more {tree : Tree} {trees : List Tree} {left text right rest : Text} :
    (∀ c ∈ left, isBlank c = true) → Written tree text → (∀ c ∈ right, isBlank c = true) →
    Lists trees rest → Lists (tree :: trees) (left ++ text ++ right ++ ',' :: rest)

end

mutual

/-- The paths of a tree's leaves, from left to right, each behind the paths of the groups
around it. -/
def Tree.paths : Tree → List Text
  | leaf path renamed => [leafText path renamed]
  | group above members => (pathsOf members).map (headText above ++ ·)

/-- The paths of the leaves of several trees. -/
def Tree.pathsOf : List Tree → List Text
  | [] => []
  | tree :: trees => tree.paths ++ pathsOf trees

end

mutual

/-- The names in a tree, from left to right. -/
def Tree.names : Tree → List Text
  | leaf path renamed => path ++ renamed.toList
  | group above members => above ++ namesOf members

/-- The names in several trees. -/
def Tree.namesOf : List Tree → List Text
  | [] => []
  | tree :: trees => tree.names ++ namesOf trees

end

mutual

/-- How many groups a tree has inside one another. -/
def Tree.nesting : Tree → Nat
  | leaf _ _ => 0
  | group _ members => nestingOf members + 1

/-- How many groups there are inside one another among several trees. -/
def Tree.nestingOf : List Tree → Nat
  | [] => 0
  | tree :: trees => max tree.nesting (nestingOf trees)

end

theorem Tree.induct {motive : Tree → Prop}
    (leaf : ∀ path renamed, motive (.leaf path renamed))
    (group : ∀ above members, (∀ tree ∈ members, motive tree) →
      motive (.group above members)) :
    ∀ tree, motive tree
  | .leaf path renamed => leaf path renamed
  | .group above members => group above members fun tree _ => Tree.induct leaf group tree

section Texts

variable {path above : List Text} {renamed : Option Text}
  {members trees : List Tree} {tree : Tree} {text left right t : Text}
  {d e : Int} {c : Char}

/-! ## Characters -/

/-- A character that neither separates trees nor opens or closes a group. -/
def IsOrdinary (c : Char) : Prop := c ≠ ',' ∧ c ≠ '{' ∧ c ≠ '}'

theorem isOrdinary_of_isMark (h : isMark c = false) :
    IsOrdinary c ∧ isBlank c = false := by
  simp only [isMark, Bool.or_eq_false_iff, decide_eq_false_iff_not] at h
  exact ⟨⟨h.1.1.2, h.1.2, h.2⟩, h.1.1.1⟩

theorem isOrdinary_of_isBlank (h : isBlank c = true) : IsOrdinary c := by
  refine ⟨?_, ?_, ?_⟩ <;> rintro rfl <;> exact absurd h (by decide)

theorem IsWord.ordinary (h : IsWord t) : ∀ c ∈ t, IsOrdinary c :=
  fun c hc => (isOrdinary_of_isMark (h.unmarked c hc)).1

theorem IsWord.not_blank (h : IsWord t) : ∀ c ∈ t, isBlank c = false :=
  fun c hc => (isOrdinary_of_isMark (h.unmarked c hc)).2

theorem unmarked_join (h : ∀ word ∈ path, IsWord word) : ∀ c ∈ join "::".toList path,
    isMark c = false :=
  forall_mem_join (by decide) fun word hword => (h word hword).unmarked

theorem unmarked_headText (h : ∀ word ∈ above, IsWord word) : ∀ c ∈ headText above,
    isMark c = false := by
  intro c hc
  obtain ⟨word, hword, hc⟩ := List.mem_flatMap.1 hc
  rcases List.mem_append.1 hc with hc | hc
  · exact (h word hword).unmarked c hc
  · exact (by decide : ∀ c ∈ "::".toList, isMark c = false) c hc

theorem ordinary_leafText (hpath : ∀ word ∈ path, IsWord word)
    (hname : ∀ name ∈ renamed, IsWord name) :
    ∀ c ∈ leafText path renamed, IsOrdinary c := by
  have hjoin : ∀ c ∈ join "::".toList path, IsOrdinary c :=
    fun c hc => (isOrdinary_of_isMark (unmarked_join hpath c hc)).1
  cases renamed with
  | none => exact List.forall_mem_append.2 ⟨hjoin, List.forall_mem_nil _⟩
  | some name =>
      have hword : ∀ c ∈ " as ".toList, IsOrdinary c := by
        unfold IsOrdinary
        decide
      exact List.forall_mem_append.2
        ⟨hjoin, List.forall_mem_append.2 ⟨hword, (hname name rfl).ordinary⟩⟩

/-! ## Depth -/

theorem splitAtDepth_ne_nil (d : Int) (t : Text) : splitAtDepth d t ≠ [] := by
  cases t with
  | nil => exact List.cons_ne_nil _ _
  | cons c t =>
      rw [splitAtDepth]
      split
      · exact List.cons_ne_nil _ _
      · split <;> exact List.cons_ne_nil _ _

/-- Walking over a text leads from one depth to another, past no comma that counts. -/
def Passes (d e : Int) (t : Text) : Prop :=
  ∀ rest, splitAtDepth d (t ++ rest) = (splitAtDepth e rest).modifyHead (t ++ ·)

theorem Passes.nil : Passes d d [] := fun rest => by
  show _ = (splitAtDepth d rest).modifyHead id
  rw [List.modifyHead_id]
  rfl

theorem Passes.append {f : Int} {s : Text} (hs : Passes d e s) (ht : Passes e f t) :
    Passes d f (s ++ t) := by
  intro rest
  rw [List.append_assoc, hs, ht, List.modifyHead_modifyHead]
  congr 1
  funext piece
  exact (List.append_assoc _ _ _).symm

theorem passes_singleton (h : c = ',' → depthAfter d c ≠ 0) :
    Passes d (depthAfter d c) [c] := by
  intro rest
  obtain ⟨piece, pieces, hpieces⟩ :=
    List.exists_cons_of_ne_nil (splitAtDepth_ne_nil (depthAfter d c) rest)
  rw [List.singleton_append, splitAtDepth]
  simp only [hpieces]
  rw [if_neg (by simpa using h)]
  rfl

theorem passes_of_ordinary (h : ∀ c ∈ t, IsOrdinary c) (d : Int) : Passes d d t := by
  induction t with
  | nil => exact .nil
  | cons c t ih =>
      obtain ⟨⟨hcomma, hopen, hclose⟩, ht⟩ := List.forall_mem_cons.1 h
      have hsame : depthAfter d c = d := by rw [depthAfter, if_neg hopen, if_neg hclose]
      have hfirst := @passes_singleton d c fun he => absurd he hcomma
      rw [hsame] at hfirst
      exact hfirst.append (ih ht)

theorem passes_of_blank (h : ∀ c ∈ t, isBlank c = true) (d : Int) : Passes d d t :=
  passes_of_ordinary (fun c hc => isOrdinary_of_isBlank (h c hc)) d

/-- A tree leads back to the depth it starts from. In a list the commas count at depth
zero, so trees in a list do so further inside. -/
theorem Written.passes (h : Written tree text) : ∀ d, 0 ≤ d → Passes d d text := by
  refine @Written.rec (fun _ text _ => ∀ d, 0 ≤ d → Passes d d text)
    (fun _ text _ => ∀ d, 0 < d → Passes d d text) ?leaf ?group ?none ?last
      ?more tree text h
  case leaf =>
    intro path renamed _ hpath hname d _
    exact passes_of_ordinary (ordinary_leafText hpath hname) d
  case group =>
    intro above members gap inside habove hgap _ _ ih d hd
    have hhead : Passes d d (headText above) :=
      passes_of_ordinary (fun c hc =>
        (isOrdinary_of_isMark (unmarked_headText habove c hc)).1) d
    have hopen : Passes d (d + 1) ['{'] := @passes_singleton d '{' fun h =>
      absurd h (by decide)
    have hclose : Passes (d + 1) d ['}'] := by
      have hback := @passes_singleton (d + 1) '}' fun h => absurd h (by decide)
      have hdepth : depthAfter (d + 1) '}' = d := Int.add_sub_cancel d 1
      rwa [hdepth] at hback
    have hinside : Passes d d ('{' :: inside ++ ['}']) :=
      (hopen.append (ih (d + 1) (by omega))).append hclose
    exact (hhead.append (passes_of_blank hgap d)).append hinside
  case none =>
    intro pad hpad d _
    exact passes_of_blank hpad d
  case last =>
    intro _ _ _ _ hleft _ hright ih d hd
    exact ((passes_of_blank hleft d).append (ih d (by omega))).append
      (passes_of_blank hright d)
  case more =>
    intro _ _ _ _ _ _ hleft _ hright _ ih ihrest d hd
    have hcomma : Passes d d [','] := @passes_singleton d ',' fun _ => by
      show d ≠ 0
      omega
    have htree :=
      ((passes_of_blank hleft d).append (ih d (by omega))).append
        (passes_of_blank hright d)
    exact htree.append (hcomma.append (ihrest d hd))

theorem count_of_ordinary (h : ∀ c ∈ t, IsOrdinary c) :
    t.count '{' = 0 ∧ t.count '}' = 0 :=
  ⟨List.count_eq_zero_of_not_mem fun hmem => (h _ hmem).2.1 rfl,
    List.count_eq_zero_of_not_mem fun hmem => (h _ hmem).2.2 rfl⟩

theorem count_of_blank (h : ∀ c ∈ t, isBlank c = true) :
    t.count '{' = 0 ∧ t.count '}' = 0 :=
  count_of_ordinary fun c hc => isOrdinary_of_isBlank (h c hc)

/-- Trees close as many braces as they open. -/
theorem Lists.balanced (h : Lists trees text) : text.count '{' = text.count '}' := by
  refine @Lists.rec (fun _ text _ => text.count '{' = text.count '}')
    (fun _ text _ => text.count '{' = text.count '}') ?leaf ?group ?none ?last
      ?more trees text h
  case leaf =>
    intro path renamed _ hpath hname
    obtain ⟨hopen, hclose⟩ := count_of_ordinary (ordinary_leafText hpath hname)
    rw [hopen, hclose]
  case group =>
    intro above members gap inside habove hgap _ _ ih
    obtain ⟨hopen, hclose⟩ := @count_of_ordinary (headText above)
      fun c hc => (isOrdinary_of_isMark (unmarked_headText habove c hc)).1
    obtain ⟨hgopen, hgclose⟩ := count_of_blank hgap
    simp [hopen, hclose, hgopen, hgclose, ih]
  case none =>
    intro pad hpad
    obtain ⟨hopen, hclose⟩ := count_of_blank hpad
    rw [hopen, hclose]
  case last =>
    intro _ _ _ _ hleft _ hright ih
    obtain ⟨hlopen, hlclose⟩ := count_of_blank hleft
    obtain ⟨hropen, hrclose⟩ := count_of_blank hright
    simp [hlopen, hlclose, hropen, hrclose, ih]
  case more =>
    intro _ _ _ _ _ _ hleft _ hright _ ih ihrest
    obtain ⟨hlopen, hlclose⟩ := count_of_blank hleft
    obtain ⟨hropen, hrclose⟩ := count_of_blank hright
    simp [hlopen, hlclose, hropen, hrclose, ih, ihrest]

/-- The braces of a group close, whatever trees it holds. -/
theorem Lists.closed (h : Lists trees text) :
    ¬ (text ++ ['}']).count '}' < (text ++ ['}']).count '{' + 1 := by
  rw [List.count_append, List.count_append, h.balanced]
  simp

/-! ## Blanks -/

theorem IsWord.trim (h : IsWord t) : t.IsTrim := .of_forall h.not_blank

theorem join_ne_nil_of_isWord (hne : path ≠ []) (h : ∀ word ∈ path, IsWord word) :
    join "::".toList path ≠ [] :=
  join_ne_nil (fun word hword => (h word hword).ne_nil) hne

theorem not_blank_of_unmarked (h : ∀ c ∈ t, isMark c = false) :
    ∀ c ∈ t, isBlank c = false :=
  fun c hc => (isOrdinary_of_isMark (h c hc)).2

/-- What is written for a tree starts and ends with a character that is not blank. -/
theorem Written.trim (h : Written tree text) : text.IsTrim ∧ text ≠ [] := by
  cases h with
  | @leaf path renamed hne hpath hname =>
      have hjoin := join_ne_nil_of_isWord hne hpath
      have htrim : (join "::".toList path).IsTrim :=
        .of_forall (not_blank_of_unmarked (unmarked_join hpath))
      refine ⟨?_, List.append_ne_nil_of_left_ne_nil hjoin _⟩
      cases renamed with
      | none =>
          show (join "::".toList path ++ []).IsTrim
          rwa [List.append_nil]
      | some name =>
          rw [leafText, ← List.append_assoc]
          exact htrim.between _ (hname name rfl).trim hjoin (hname name rfl).ne_nil
  | @group above members gap inside habove hgap hnil hinside =>
      refine ⟨⟨fun c hc => ?_, fun c hc => ?_⟩, by simp⟩
      · by_cases hempty : above = []
        · subst hempty
          rw [hnil rfl] at hc
          obtain rfl : c = '{' := (Option.some.inj hc).symm
          decide
        · have hhead : headText above ≠ [] := by
            obtain ⟨word, rest, rfl⟩ := List.exists_cons_of_ne_nil hempty
            simp [headText]
          rw [List.append_assoc, List.head?_append_of_ne_nil _ hhead] at hc
          exact not_blank_of_unmarked (unmarked_headText habove) c (List.mem_of_head? hc)
      · rw [← List.append_assoc, List.getLast?_concat] at hc
        obtain rfl : c = '}' := (Option.some.inj hc).symm
        decide

/-- Blanks may be added around a list. -/
theorem Lists.pad_left (hleft : ∀ c ∈ left, isBlank c = true) (h : Lists trees text) :
    Lists trees (left ++ text) := by
  cases h with
  | none hpad => exact .none (List.forall_mem_append.2 ⟨hleft, hpad⟩)
  | last hl htree hr =>
      rw [← List.append_assoc, ← List.append_assoc]
      exact .last (List.forall_mem_append.2 ⟨hleft, hl⟩) htree hr
  | more hl htree hr hrest =>
      rw [← List.append_assoc, ← List.append_assoc, ← List.append_assoc]
      exact .more (List.forall_mem_append.2 ⟨hleft, hl⟩) htree hr hrest

theorem Lists.pad_right (hright : ∀ c ∈ right, isBlank c = true) (h : Lists trees text) :
    Lists trees (text ++ right) := by
  induction trees generalizing text with
  | nil =>
      cases h with
      | none hpad => exact .none (List.forall_mem_append.2 ⟨hpad, hright⟩)
  | cons tree trees ih =>
      cases h with
      | last hl htree hr =>
          rw [List.append_assoc]
          exact .last hl htree (List.forall_mem_append.2 ⟨hr, hright⟩)
      | more hl htree hr hrest =>
          rw [List.append_assoc, List.cons_append]
          exact .more hl htree hr (ih hrest)

theorem lists_singleton (h : Written tree text) : Lists [tree] text := by
  have hlast := Lists.last (List.forall_mem_nil _) h (List.forall_mem_nil _)
  rwa [List.nil_append, List.append_nil] at hlast

theorem singleSpaced_leafText (hne : path ≠ []) (hpath : ∀ word ∈ path, IsWord word)
    (hname : ∀ name ∈ renamed, IsWord name) :
    singleSpaced (leafText path renamed) = leafText path renamed := by
  have hblank : ∀ c ∈ join "::".toList path, isBlank c = false :=
    not_blank_of_unmarked (unmarked_join hpath)
  cases renamed with
  | none =>
      show singleSpaced (join "::".toList path ++ []) = _
      rw [List.append_nil, singleSpaced_of_forall hblank]
      exact (List.append_nil _).symm
  | some name =>
      have hparts : leafText path (some name) =
          join "::".toList path ++ ' ' :: ("as".toList ++ ' ' :: name) := rfl
      have hwords : words (leafText path (some name)) =
          [join "::".toList path, "as".toList, name] := by
        rw [hparts, words, fields_append_cons (by decide), fields_append_cons (by decide),
          fields_of_forall_neg hblank (join_ne_nil_of_isWord hne hpath),
          fields_of_forall_neg (hname name rfl).not_blank (hname name rfl).ne_nil]
        rfl
      rw [singleSpaced, hwords, hparts]
      simp [join]

/-- Made plain, what is written for a tree is written for it still. -/
theorem Lists.singleSpaced (h : Lists trees text) :
    Lists trees (Text.singleSpaced text) := by
  refine @Lists.rec (fun tree text _ => Written tree (Text.singleSpaced text))
    (fun trees text _ => Lists trees (Text.singleSpaced text)) ?leaf ?group ?none ?last
      ?more trees text h
  case leaf =>
    intro path renamed hne hpath hname
    rw [singleSpaced_leafText hne hpath hname]
    exact .leaf hne hpath hname
  case group =>
    intro above members gap inside habove hgap hnil _ ih
    obtain ⟨s, hs, hsnil, hopen⟩ :=
      @singleSpaced_append_cons '{' (headText above ++ gap) (inside ++ ['}']) (by decide)
    obtain ⟨e, he, -, hclose⟩ := @singleSpaced_append_cons '}' inside [] (by decide)
    have hhead : Text.singleSpaced (headText above ++ gap) = headText above := by
      rw [Text.singleSpaced, words, fields_append_pad hgap]
      exact singleSpaced_of_forall (not_blank_of_unmarked (unmarked_headText habove))
    have htext : Text.singleSpaced (headText above ++ gap ++ ('{' :: inside ++ ['}'])) =
        headText above ++ s ++
          ('{' ::
            (spaceBefore (inside ++ ['}']) ++ Text.singleSpaced inside ++ e) ++
              ['}']) := by
      rw [List.cons_append, hopen, hhead, hclose]
      simp [spaceBefore, Text.singleSpaced, words, fields, join]
    rw [htext]
    refine .group habove hs (fun hempty => hsnil ?_)
      ((ih.pad_left (isBlank_spaceBefore _)).pad_right he)
    rw [hempty, hnil hempty]
    rfl
  case none =>
    intro pad hpad
    have hwords : words pad = [] := fields_of_forall_pos hpad
    rw [Text.singleSpaced, hwords]
    exact .none (List.forall_mem_nil _)
  case last =>
    intro _ _ _ _ hleft _ hright ih
    rw [singleSpaced_pad hleft hright]
    exact lists_singleton ih
  case more =>
    intro _ _ left text right rest hleft _ hright _ ih ihrest
    obtain ⟨s, hs, -, hcomma⟩ :=
      @singleSpaced_append_cons ',' (left ++ text ++ right) rest (by decide)
    rw [hcomma, singleSpaced_pad hleft hright]
    exact .more (List.forall_mem_nil _) ih hs (ihrest.pad_left (isBlank_spaceBefore _))

/-! ## Expansion -/

theorem strip_of_blank (h : ∀ c ∈ t, isBlank c = true) : strip t = [] := by
  have hstrip :=
    @strip_pad [] t [] (.of_forall (List.forall_mem_nil _)) h (List.forall_mem_nil _)
  rwa [List.append_nil, List.append_nil] at hstrip

/-- Up to the next comma, a tree in a list is one piece. -/
theorem splitAtDepth_padded (hleft : ∀ c ∈ left, isBlank c = true) (h : Written tree text)
    (hright : ∀ c ∈ right, isBlank c = true) (rest : Text) :
    splitAtDepth 0 (left ++ text ++ right ++ rest) =
      (splitAtDepth 0 rest).modifyHead (left ++ text ++ right ++ ·) :=
  (((passes_of_blank hleft 0).append (h.passes 0 (Int.le_refl 0))).append
    (passes_of_blank hright 0)) rest

/-- A tree alone is one entry. -/
theorem Written.entries (h : Written tree text) (hleft : ∀ c ∈ left, isBlank c = true)
    (hright : ∀ c ∈ right, isBlank c = true) :
    UseTree.entries (left ++ text ++ right) = [text] := by
  have hsplit := splitAtDepth_padded hleft h hright []
  have hend : splitAtDepth 0 [] = [[]] := rfl
  rw [List.append_nil, hend, List.modifyHead_cons, List.append_nil] at hsplit
  rw [UseTree.entries, hsplit, List.map_singleton, strip_pad h.trim.1 hleft hright,
    List.filter_cons_of_pos (by simpa using h.trim.2), List.filter_nil]

/-- The entries of a list are what is written for its trees. -/
theorem Lists.entries (h : Lists trees text) :
    List.Forall₂ Written trees (UseTree.entries text) := by
  induction trees generalizing text with
  | nil =>
      cases h with
      | none hpad =>
          have hsplit := passes_of_blank hpad 0 []
          rw [List.append_nil] at hsplit
          simp [UseTree.entries, hsplit, splitAtDepth, strip_of_blank hpad]
  | cons tree trees ih =>
      cases h with
      | @last _ left text right hleft htree hright =>
          rw [htree.entries hleft hright]
          exact .cons htree .nil
      | @more _ _ left text right rest hleft htree hright hrest =>
          have hsplit := splitAtDepth_padded hleft htree hright (',' :: rest)
          have hcomma : splitAtDepth 0 (',' :: rest) = [] :: splitAtDepth 0 rest := rfl
          have hentries : UseTree.entries (left ++ text ++ right ++ ',' :: rest) =
              text :: UseTree.entries rest := by
            rw [UseTree.entries, hsplit, hcomma, List.modifyHead_cons, List.append_nil,
              List.map_cons, strip_pad htree.trim.1 hleft hright,
              List.filter_cons_of_pos (by simpa using htree.trim.2)]
            rfl
          rw [hentries]
          exact .cons htree (ih hrest)

theorem openGroup?_leafText (hpath : ∀ word ∈ path, IsWord word)
    (hname : ∀ name ∈ renamed, IsWord name) :
    openGroup? (leafText path renamed) = none := by
  have hcut : cut ['{'] (leafText path renamed) = none :=
    cut_of_notMem fun hmem => (ordinary_leafText hpath hname _ hmem).2.1 rfl
  rw [openGroup?, hcut, Option.map_none]

theorem openGroup?_group {gap inside : Text} (habove : ∀ word ∈ above, IsWord word)
    (hgap : ∀ c ∈ gap, isBlank c = true) (hinside : Lists members inside) :
    openGroup? (headText above ++ gap ++ ('{' :: inside ++ ['}'])) =
      some (headText above, some inside) := by
  have hhead : '{' ∉ headText above ++ gap := by
    intro hmem
    rcases List.mem_append.1 hmem with hmem | hmem
    · exact absurd (unmarked_headText habove _ hmem) (by decide)
    · exact absurd (hgap _ hmem) (by decide)
  have hcut : cut ['{'] (headText above ++ gap ++ ('{' :: inside ++ ['}'])) =
      some (headText above ++ gap, inside ++ ['}']) := by
    rw [cut_eq_some_iff]
    exact ⟨hhead, rfl⟩
  have hstrip : strip (headText above ++ gap) = headText above :=
    @strip_pad (headText above) [] gap
      (.of_forall (not_blank_of_unmarked (unmarked_headText habove)))
        (List.forall_mem_nil _) hgap
  simp only [openGroup?, hcut, Option.map_some, if_neg hinside.closed,
    cutLast_concat, hstrip]

theorem flatMap_expandEntry {texts : List Text} (h : List.Forall₂ Written trees texts)
    (hexpand : ∀ tree ∈ trees, ∀ text p, Written tree text →
      expandEntry p text = tree.paths.map fun path => dropSelf (p ++ path)) (p : Text) :
    texts.flatMap (expandEntry p) = (Tree.pathsOf trees).map fun path =>
      dropSelf (p ++ path) := by
  induction h with
  | nil => rfl
  | @cons tree text trees texts htree _ ih =>
      obtain ⟨hfirst, hrest⟩ := List.forall_mem_cons.1 hexpand
      rw [List.flatMap_cons, hfirst text p htree, ih hrest, Tree.pathsOf, List.map_append]

theorem Written.expandEntry_eq (tree : Tree) : ∀ text p, Written tree text →
    expandEntry p text = tree.paths.map fun path => dropSelf (p ++ path) := by
  induction tree using Tree.induct with
  | leaf path renamed =>
      intro text p h
      cases h with
      | leaf _ hpath hname =>
          simp only [expandEntry, openGroup?_leafText hpath hname]; rfl
  | group above members ih =>
      intro text p h
      cases h with
      | group habove hgap _ hinside =>
          simp only [expandEntry, openGroup?_group habove hgap hinside]
          rw [expand_eq, flatMap_expandEntry hinside.singleSpaced.entries ih,
            Tree.paths, List.map_map]
          refine List.map_congr_left fun path _ => ?_
          rw [List.append_assoc]
          rfl

theorem Lists.expand_eq (h : Lists trees text) (p : Text) :
    expand text p = (Tree.pathsOf trees).map fun path => dropSelf (p ++ path) := by
  rw [UseTree.expand_eq]
  exact flatMap_expandEntry h.singleSpaced.entries (fun tree _ =>
    Written.expandEntry_eq tree) p

/-! ## The calls of an expansion -/

theorem foldr_depthInside {texts : List Text} (h : List.Forall₂ Written trees texts)
    (hdepth : ∀ tree ∈ trees, ∀ text, Written tree text →
      depthInside text = tree.nesting) :
    (texts.map depthInside).foldr max 0 = Tree.nestingOf trees := by
  induction h with
  | nil => rfl
  | @cons tree text trees texts htree _ ih =>
      obtain ⟨hfirst, hrest⟩ := List.forall_mem_cons.1 hdepth
      rw [List.map_cons, List.foldr_cons, hfirst text htree, ih hrest, Tree.nestingOf]

theorem Written.depthInside_eq (tree : Tree) : ∀ text, Written tree text →
    depthInside text = tree.nesting := by
  induction tree using Tree.induct with
  | leaf path renamed =>
      intro text h
      cases h with
      | leaf _ hpath hname =>
          simp only [depthInside, openGroup?_leafText hpath hname, Tree.nesting]
  | group above members ih =>
      intro text h
      cases h with
      | group habove hgap _ hinside =>
          simp only [depthInside, openGroup?_group habove hgap hinside]
          rw [depth_eq, foldr_depthInside hinside.singleSpaced.entries ih, Tree.nesting]

/-- A list of trees takes one call and those of its deepest member. -/
theorem Lists.depth_eq (h : Lists trees text) :
    depth text = Tree.nestingOf trees + 1 := by
  rw [UseTree.depth_eq]
  exact congrArg (· + 1)
    (foldr_depthInside h.singleSpaced.entries fun tree _ => Written.depthInside_eq tree)

/-- The path of a leaf named `self` is that of its group. -/
theorem dropSelf_append (t : Text) : dropSelf (t ++ "::self".toList) = t := by
  rw [dropSelf, if_pos (by simp [endsWith])]
  simp

theorem dropSelf_of_not_suffix (h : ¬ "::self".toList <:+ t) : dropSelf t = t := by
  rw [dropSelf, if_neg (by simpa [endsWith] using h)]

theorem expand_padded (h : Written tree text) (hleft : ∀ c ∈ left, isBlank c = true)
    (hright : ∀ c ∈ right, isBlank c = true) (p : Text) :
    expand (left ++ text ++ right) p = tree.paths.map fun path =>
      dropSelf (p ++ path) := by
  rw [(Lists.last hleft h hright).expand_eq, Tree.pathsOf, Tree.pathsOf, List.append_nil]

theorem depth_padded (h : Written tree text) (hleft : ∀ c ∈ left, isBlank c = true)
    (hright : ∀ c ∈ right, isBlank c = true) :
    depth (left ++ text ++ right) = tree.nesting + 1 := by
  rw [(Lists.last hleft h hright).depth_eq, Tree.nestingOf, Tree.nestingOf, Nat.max_zero]

end Texts

end ImpactGraph.Rules.UseTree
