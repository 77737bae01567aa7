import ImpactGraph.Proofs.SelfPaths
import ImpactGraph.Proofs.UseDeclarations

/-!
# A group's own path as its member

`use p::{self};` is another way to write `use p;`, however many groups the member stands
in, and it is read as such: the path of the leaf ends in `::self`, which the expansion
drops. With an alias the path does not end there, so `self` stays in it. What is recorded
then is an import of an item named `self`, from wherever a path with one more name leads,
and not the import that `use p as q;` is. The two agree in their kind, their line and
their alias; whether they agree in their target is `SharesTarget`.
-/

namespace ImpactGraph.Rules.Rust

open Text UseTree Resolve

/-- A path in a use declaration: names, of which only the first may be `self`. -/
structure IsUsePath (path : List Text) : Prop where
  ne_nil : path ≠ []
  names : ∀ name ∈ path, IsUseName name
  no_self : "self".toList ∉ path.tail

instance (path : List Text) : Decidable (IsUsePath path) :=
  decidable_of_iff (path ≠ [] ∧ (∀ name ∈ path, IsUseName name) ∧
    "self".toList ∉ path.tail)
    ⟨fun ⟨a, b, c⟩ => ⟨a, b, c⟩, fun ⟨a, b, c⟩ => ⟨a, b, c⟩⟩

/-- A member named `self` in groups, one in another, each below a path of its own that may
be empty. -/
def selfTree (groups : List (List Text)) (renamed : Option Text) : Tree :=
  groups.foldr (fun above inner => .group above [inner]) (.leaf ["self".toList] renamed)

/-- The facts of a file that holds one use declaration. -/
def useFacts (w : Workspace) (root file clause : Text) : Except UseTree.Fault FileFacts :=
  (findings w root file (useText clause)).map (FileFacts.ofFindings file .rust)

variable {w : Workspace} {root file clause name : Text} {path : List Text}
  {groups : List (List Text)} {renamed : Option Text}

/-! ## The path of the member -/

theorem headText_append_leafText (above : List Text) (hne : path ≠ []) :
    headText above ++ leafText path renamed = leafText (above ++ path) renamed := by
  induction above with
  | nil => rfl
  | cons name above ih =>
      have hjoin : usePath (name :: (above ++ path)) = name ++ "::".toList ++
          usePath (above ++ path) :=
        join_cons _ _ (List.append_ne_nil_of_right_ne_nil above hne)
      have hhead : headText (name :: above) = name ++ "::".toList ++ headText above := rfl
      rw [hhead, List.append_assoc, ih, List.cons_append]
      show _ ++ (usePath (above ++ path) ++ _) = usePath (name :: (above ++ path)) ++ _
      rw [hjoin]
      simp

theorem paths_selfTree (groups : List (List Text)) (renamed : Option Text) :
    (selfTree groups renamed).paths =
      [leafText (groups.flatten ++ ["self".toList]) renamed] := by
  induction groups with
  | nil => rfl
  | cons above groups ih =>
      have hpaths : (selfTree (above :: groups) renamed).paths =
          ((selfTree groups renamed).paths ++ []).map (headText above ++ ·) := rfl
      rw [hpaths, ih, List.append_nil, List.map_singleton,
        headText_append_leafText above (by simp), List.flatten_cons, List.append_assoc]

theorem nesting_selfTree (groups : List (List Text)) (renamed : Option Text) :
    (selfTree groups renamed).nesting = groups.length := by
  induction groups with
  | nil => rfl
  | cons above groups ih =>
      have hnesting : (selfTree (above :: groups) renamed).nesting =
          max (selfTree groups renamed).nesting 0 + 1 := rfl
      rw [hnesting, ih, Nat.max_zero, List.length_cons]

theorem names_selfTree (groups : List (List Text)) (renamed : Option Text) :
    (selfTree groups renamed).names = groups.flatten ++ "self".toList ::
      renamed.toList := by
  induction groups with
  | nil => rfl
  | cons above groups ih =>
      have hnames : (selfTree (above :: groups) renamed).names =
          above ++ ((selfTree groups renamed).names ++ []) := rfl
      rw [hnames, ih, List.append_nil, List.flatten_cons, List.append_assoc]

/-- A member in one group, written without blanks. -/
theorem written_selfTree_singleton {above : List Text}
    (habove : ∀ name ∈ above, IsUseName name)
    (hrenamed : ∀ name ∈ renamed, IsUseName name) :
    Written (selfTree [above] renamed)
      (headText above ++ '{' :: leafText ["self".toList] renamed ++ ['}']) := by
  have hself :
      Written (.leaf ["self".toList] renamed) (leafText ["self".toList] renamed) :=
    .leaf (List.cons_ne_nil _ _) (by decide) fun name hname =>
      (hrenamed name hname).isWord
  have hgroup :=
    @Written.group above _ [] _ (fun name hname => (habove name hname).isWord)
    (List.forall_mem_nil _) (fun _ => rfl) (lists_singleton hself)
  rwa [List.append_nil, ← List.append_assoc] at hgroup

/-! ## Where the path of `self` is dropped -/

theorem dropSelf_usePath_self (hne : path ≠ []) :
    dropSelf (usePath (path ++ ["self".toList])) = usePath path := by
  have htext : usePath (path ++ ["self".toList]) = usePath path ++ "::self".toList := by
    rw [usePath, Text.join_concat _ hne, List.append_assoc]
    rfl
  rw [htext, dropSelf_append]

theorem dropSelf_usePath (h : IsUsePath path) :
    dropSelf (usePath path) = usePath path := by
  refine dropSelf_of_not_suffix ?_
  rintro ⟨before, hbefore⟩
  obtain ⟨front, last, rfl⟩ := (List.eq_nil_or_concat path).resolve_left h.ne_nil
  rw [List.concat_eq_append] at hbefore h
  have hlast : ∀ c ∈ last, decide (c = ':') = false := by
    intro c hc
    refine decide_eq_false fun he => ?_
    exact (h.names last (by simp)).notMem (by decide) (he ▸ hc)
  have hself : before ++ "::self".toList = (before ++ [':']) ++ ':' :: "self".toList := by
    simp
  by_cases hfront : front = []
  · subst hfront
    have hcolon : ':' ∈ last := by
      show ':' ∈ usePath ([] ++ [last])
      rw [← hbefore]
      simp
    exact absurd (hlast _ hcolon) (by decide)
  · have hpath : usePath (front ++ [last]) = (usePath front ++ [':']) ++ ':' :: last := by
      rw [usePath, Text.join_concat _ hfront]
      simp [usePath]
    rw [hself, hpath] at hbefore
    obtain ⟨-, -, rfl⟩ := eq_of_last (by decide) hlast (by decide) (by decide) hbefore
    refine h.no_self ?_
    rw [List.tail_append_of_ne_nil hfront]
    simp

theorem dropSelf_renamed (path : List Text) (hname : IsUseName name) :
    dropSelf (leafText path (some name)) = leafText path (some name) := by
  refine dropSelf_of_not_suffix fun hsuffix => ?_
  have halias : ' ' :: name <:+ leafText path (some name) :=
    ⟨usePath path ++ " as".toList, by simp [leafText, usePath]⟩
  rcases List.suffix_or_suffix_of_suffix hsuffix halias with hshort | hlong
  · rcases List.mem_cons.1 (hshort.subset (by decide : ':' ∈ "::self".toList))
      with he | hmem
    · exact absurd he (by decide)
    · exact hname.notMem (by decide) hmem
  · exact absurd (hlong.subset List.mem_cons_self) (by decide)

/-! ## What is recorded -/

/-- The facts of one use declaration whose tree has one leaf. -/
def leafFacts (w : Workspace) (root file : Text) (path : List Text) (hne : path ≠ [])
    (renamed : Option Text) : FileFacts where
  file := file
  language := some .rust
  imports :=
    [⟨path.getLast hne, rust w root file (usePath path), .named, leafText path renamed, 1,
    renamed⟩]
  edges := [rust w root file (usePath path)]

theorem useFacts_of_written {tree : Tree} (h : Written tree clause)
    (hnames : ∀ name ∈ tree.names, IsUseName name)
    (hpaths : tree.paths.map dropSelf = [leafText path renamed]) (hne : path ≠ [])
    (hpath : ∀ name ∈ path, IsUseName name)
    (hrenamed : ∀ name ∈ renamed, IsUseName name) :
    useFacts w root file clause =
      if tree.nesting < w.stack then .ok (leafFacts w root file path hne renamed)
      else .error .tooDeep := by
  rw [useFacts, findings_of_written h hnames, hpaths, List.flatMap_singleton,
    useFindings_leafText hne hpath hrenamed]
  split
  · rw [Except.map, FileFacts.ofFindings_eq]
    rfl
  · rfl

theorem useFacts_leafText (h : IsUsePath path)
    (hrenamed : ∀ name ∈ renamed, IsUseName name) (hstack : 0 < w.stack) :
    useFacts w root file (leafText path renamed) =
      .ok (leafFacts w root file path h.ne_nil renamed) := by
  have hwritten : Written (.leaf path renamed) (leafText path renamed) :=
    .leaf h.ne_nil (fun name hname => (h.names name hname).isWord)
      fun name hname => (hrenamed name hname).isWord
  have hnames : ∀ name ∈ (Tree.leaf path renamed).names, IsUseName name :=
    List.forall_mem_append.2 ⟨h.names, fun name hname =>
      hrenamed name (Option.mem_toList.1 hname)⟩
  have hdrop : dropSelf (leafText path renamed) = leafText path renamed := by
    cases renamed with
    | none =>
        rw [leafText_none]
        exact dropSelf_usePath h
    | some name => exact dropSelf_renamed path (hrenamed name rfl)
  rw [useFacts_of_written hwritten hnames ?_ h.ne_nil h.names hrenamed, Tree.nesting,
    if_pos hstack]
  rw [Tree.paths, List.map_singleton, hdrop]

section Members

variable (h : IsUsePath path) (hgroups : groups.flatten = path)
include h hgroups

theorem forall_mem_names_selfTree (hrenamed : ∀ name ∈ renamed, IsUseName name) :
    ∀ name ∈ (selfTree groups renamed).names, IsUseName name := by
  rw [names_selfTree, hgroups]
  refine List.forall_mem_append.2 ⟨h.names,
    List.forall_mem_cons.2 ⟨by decide, fun name hname => ?_⟩⟩
  exact hrenamed name (Option.mem_toList.1 hname)

/-- A member that is named `self` and has no alias is the path of its groups. -/
theorem useFacts_self (hwritten : Written (selfTree groups none) clause) :
    useFacts w root file clause =
      if groups.length < w.stack then .ok (leafFacts w root file path h.ne_nil none)
      else .error .tooDeep := by
  have hnone : ∀ name ∈ (none : Option Text), IsUseName name := fun _ hname =>
    absurd hname (by simp)
  rw [← nesting_selfTree groups none]
  refine useFacts_of_written hwritten (forall_mem_names_selfTree h hgroups hnone) ?_
    h.ne_nil h.names hnone
  rw [paths_selfTree, hgroups, List.map_singleton, leafText_none, leafText_none,
    dropSelf_usePath_self h.ne_nil]

/-- With an alias it is that path and `self` as one more name. -/
theorem useFacts_self_renamed (hname : IsUseName name)
    (hwritten : Written (selfTree groups (some name)) clause) :
    useFacts w root file clause =
      if groups.length < w.stack then
        .ok (leafFacts w root file (path ++ ["self".toList])
          (List.append_ne_nil_of_right_ne_nil path (List.cons_ne_nil _ _)) (some name))
      else .error .tooDeep := by
  have hsome : ∀ other ∈ some name, IsUseName other := by simpa using hname
  rw [← nesting_selfTree groups (some name)]
  refine useFacts_of_written hwritten (forall_mem_names_selfTree h hgroups hsome) ?_ _
    (List.forall_mem_append.2 ⟨h.names, List.forall_mem_singleton.2 (by decide)⟩) hsome
  rw [paths_selfTree, hgroups, List.map_singleton, dropSelf_renamed _ hname]

end Members

theorem IsUsePath.rust_self_iff (h : IsUsePath path) (hfile : Path.IsId file) :
    rust w root file (usePath (path ++ ["self".toList])) =
      rust w root file (usePath path) ↔
      SharesTarget w (w.canonical root ['.']) file path := by
  refine Resolve.rust_self_iff hfile h.ne_nil fun name hname => ?_
  exact ⟨(h.names name hname).isSegment, (h.names name hname).notMem (by decide)⟩

/-- The module of a file is no file below itself. -/
theorem IsUsePath.not_sharesTarget (h : IsUsePath path)
    (hlast : path.getLast h.ne_nil = "self".toList) (top : Text) :
    ¬ SharesTarget w top file path := by
  obtain ⟨front, last, rfl⟩ := (List.eq_nil_or_concat path).resolve_left h.ne_nil
  simp only [List.concat_eq_append, List.getLast_concat] at hlast
  subst hlast
  by_cases hfront : front = []
  · subst hfront
    exact fun hshares => hshares.1 rfl
  · refine absurd ?_ h.no_self
    rw [List.concat_eq_append, List.tail_append_of_ne_nil hfront]
    simp

/-- However a member named `self` is nested in groups and laid out, it records what the
path of its groups records when it has no alias. With an alias the kind, the line and the
alias are those of the path, but the symbol is `self`, and the target is that of `self`
below the path, which need not be the path's own; never are both the path's. That is so as
long as the stack holds a call more than there are groups; on a smaller one nothing is
recorded. -/
theorem self_member_recorded (w : Workspace) (root file : Text) (hpath : IsUsePath path)
    (hgroups : groups.flatten = path) :
    (∀ clause, Written (selfTree groups none) clause → groups.length < w.stack →
      useFacts w root file clause = useFacts w root file (usePath path)) ∧
    (∀ name clause, IsUseName name → Written (selfTree groups (some name)) clause →
      groups.length < w.stack →
      let inside := rust w root file (usePath (path ++ ["self".toList]))
      let target := rust w root file (usePath path)
      ∃ member direct, useFacts w root file clause = .ok member ∧
        useFacts w root file (leafText path (some name)) = .ok direct ∧
        member.imports =
          [⟨"self".toList, inside, .named,
            leafText (path ++ ["self".toList]) (some name), 1,
          some name⟩] ∧ member.edges = [inside] ∧
        direct.imports =
          [⟨path.getLast hpath.ne_nil, target, .named, leafText path (some name), 1,
          some name⟩] ∧ direct.edges = [target] ∧
        (Path.IsId file →
          (inside = target ↔ SharesTarget w (w.canonical root ['.']) file path) ∧
          (path.getLast hpath.ne_nil = "self".toList → inside ≠ target))) ∧
    ∀ renamed clause, (∀ name ∈ renamed, IsUseName name) →
      Written (selfTree groups renamed) clause →
      w.stack ≤ groups.length → useFacts w root file clause = .error .tooDeep := by
  refine ⟨?_, ?_, ?_⟩
  · intro clause hwritten hstack
    have hdirect :=
      @useFacts_leafText w root file path none hpath (by simp) (Nat.zero_lt_of_lt hstack)
    rw [leafText_none] at hdirect
    rw [useFacts_self hpath hgroups hwritten, if_pos hstack, hdirect]
  · intro name clause hname hwritten hstack inside target
    have hmember :=
      @useFacts_self_renamed w root file _ _ _ _ hpath hgroups hname hwritten
    have hdirect :=
      @useFacts_leafText w root file path (some name) hpath (by simpa using hname)
      (Nat.zero_lt_of_lt hstack)
    rw [if_pos hstack] at hmember
    refine ⟨_, _, hmember, hdirect, ?_, rfl, rfl, rfl, fun hfile => ?_⟩
    · simp only [leafFacts, List.getLast_concat]
      rfl
    · refine ⟨hpath.rust_self_iff hfile, fun hlast he => ?_⟩
      exact hpath.not_sharesTarget hlast _ ((hpath.rust_self_iff hfile).1 he)
  · intro renamed clause hrenamed hwritten hstack
    cases renamed with
    | none => rw [useFacts_self hpath hgroups hwritten, if_neg (Nat.not_lt.2 hstack)]
    | some name =>
        rw [useFacts_self_renamed hpath hgroups (hrenamed name rfl) hwritten,
          if_neg (Nat.not_lt.2 hstack)]

theorem self_member_recorded_of_crateFiles :
    let root := "/p".toList
    let file := "/p/src/lib.rs".toList
    let module := "/p/src/a/c/mod.rs".toList
    let aliased := "a:: { c::{self as q}, }".toList
    useFacts crateFiles root file "a::{c::{self}}".toList =
      useFacts crateFiles root file "a::c".toList ∧
      ∃ member direct, useFacts crateFiles root file aliased = .ok member ∧
        useFacts crateFiles root file "a::c as q".toList = .ok direct ∧
        member.imports =
          [⟨"self".toList, module, .named, "a::c::self as q".toList, 1,
            some "q".toList⟩] ∧
        member.edges = [module] ∧
        direct.imports =
          [⟨"c".toList, module, .named, "a::c as q".toList, 1, some "q".toList⟩] ∧
        SharesTarget crateFiles root file ["a".toList, "c".toList] := by
  intro root file module aliased
  have hfile : Path.IsId file :=
    ⟨['/'], ["p".toList, "src".toList, "lib.rs".toList], .inl rfl, by decide, rfl⟩
  have hpath : IsUsePath ["a".toList, "c".toList] := by decide
  have hname : IsUseName "q".toList := by decide
  have hc : ∀ name ∈ ["c".toList], IsUseName name := by decide
  have hplain :
      Written (selfTree [["a".toList], ["c".toList]] none) "a::{c::{self}}".toList :=
    @Written.group _ _ [] "c::{self}".toList (by decide) (List.forall_mem_nil _)
      (fun _ => rfl)
      (lists_singleton (written_selfTree_singleton hc (by simp)))
  have haliased :
      Written (selfTree [["a".toList], ["c".toList]] (some "q".toList)) aliased :=
    @Written.group _ _ [' '] " c::{self as q}, ".toList (by decide)
      (by decide) (by decide)
      (@Lists.more _ _ [' '] _ [] [' '] (by decide)
        (written_selfTree_singleton hc (by simpa using hname)) (List.forall_mem_nil _)
          (.none (by decide)))
  obtain ⟨hsame, halias, -⟩ :=
    @self_member_recorded _ [["a".toList], ["c".toList]] crateFiles root file hpath rfl
  obtain ⟨member, direct, hmember, hdirect, himports, hedges, hothers, -, htarget⟩ :=
    halias _ _ hname haliased (by decide)
  have hinside :
      rust crateFiles root file (usePath (["a".toList, "c".toList] ++ ["self".toList])) =
        module := by
    decide +kernel
  have hmodule :
      rust crateFiles root file (usePath ["a".toList, "c".toList]) = module := by
    decide +kernel
  have htop : crateFiles.canonical root ['.'] = root := by decide
  have hshares := (htarget hfile).1.1 (hinside.trans hmodule.symm)
  rw [hinside] at himports hedges
  rw [hmodule] at hothers
  rw [htop] at hshares
  exact ⟨hsame _ hplain (by decide), member, direct, hmember, hdirect, himports, hedges,
    hothers, hshares⟩

/-- The module `a::c` is imported under another name; as a member of its own group it is
an import of `self`. -/
theorem self_member_of_crateFiles :
    ∃ member direct,
      useFacts crateFiles "/p".toList "/p/src/lib.rs".toList "a::c::{self as q}".toList =
        .ok member ∧
      useFacts crateFiles "/p".toList "/p/src/lib.rs".toList "a::c as q".toList =
        .ok direct ∧
      Written (selfTree [["a".toList, "c".toList]] (some "q".toList))
        "a::c::{self as q}".toList ∧
      member.imports.map (·.symbol) = ["self".toList] ∧ direct.imports.map (·.symbol) =
        ["c".toList] ∧
      member.imports.map (·.symbol) ≠ direct.imports.map (·.symbol) := by
  have hpath : IsUsePath ["a".toList, "c".toList] := by decide
  have hname : IsUseName "q".toList := by decide
  have hsome : ∀ name ∈ some "q".toList, IsUseName name := by simpa using hname
  have hwritten : Written (selfTree [["a".toList, "c".toList]] (some "q".toList))
      "a::c::{self as q}".toList :=
    written_selfTree_singleton hpath.names hsome
  obtain ⟨member, hmember, hself⟩ : ∃ member,
      useFacts crateFiles "/p".toList "/p/src/lib.rs".toList "a::c::{self as q}".toList =
        .ok member ∧
        member.imports.map (·.symbol) = ["self".toList] := by
    have hfacts :=
      @useFacts_self_renamed crateFiles "/p".toList "/p/src/lib.rs".toList _ _ _ _ hpath
      rfl hname hwritten
    rw [if_pos (by decide)] at hfacts
    exact ⟨_, hfacts, rfl⟩
  obtain ⟨direct, hdirect, hlast⟩ : ∃ direct,
      useFacts crateFiles "/p".toList "/p/src/lib.rs".toList "a::c as q".toList =
        .ok direct ∧
        direct.imports.map (·.symbol) = ["c".toList] := by
    have hfacts :=
      @useFacts_leafText crateFiles "/p".toList "/p/src/lib.rs".toList _ _ hpath hsome
      (by decide)
    exact ⟨_, hfacts, rfl⟩
  refine ⟨member, direct, hmember, hdirect, hwritten, hself, hlast, ?_⟩
  rw [hself, hlast]
  decide

end ImpactGraph.Rules.Rust
